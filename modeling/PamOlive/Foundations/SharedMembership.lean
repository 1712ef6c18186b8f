import Mathlib.Data.List.Nodup

/-
  A membership that several links share.

  Each link remembers whether the membership was there before it. Unlinking ends the membership
  when no link is left and the last one found none.
-/

---- Links

namespace PamOlive.Foundations

variable {Key : Type}

/- Whether there is a membership, and its links with whether each keeps it when it goes. -/
structure Shared (Key : Type) where
  member : Bool
  links : List (Key × Bool)

namespace Shared

open List

/- A new link keeps a membership that is there already. -/
def link (key : Key) (shared : Shared Key) : Shared Key where
  member := true
  links := shared.links ++ [(key, shared.member)]

def linkAll : List Key → Shared Key → Shared Key
| [], shared => shared
| key :: rest, shared => linkAll rest (shared.link key)

/- The old links are there, and the new ones are not. -/
structure Fits (news : List Key) (olds : List (Key × Bool)) (shared : Shared Key) : Prop where
  isLinked : ∀ entry ∈ olds, entry ∈ shared.links
  oldKeys : (olds.map Prod.fst).Nodup
  linkKeys : (shared.links.map Prod.fst).Nodup
  newKeys : ∀ key ∈ news, key ∉ shared.links.map Prod.fst

---- Linking

variable {shared : Shared Key} {news : List Key} {olds : List (Key × Bool)} {entry : Key × Bool}

/- The first new link has the old flag, the others keep. -/
def newLinks (member : Bool) : List Key → List (Key × Bool)
| [] => []
| key :: rest => (key, member) :: rest.map (fun other => (other, true))

theorem newLinks_append (member : Bool) (key : Key) (rest : List Key) :
    (key, member) :: newLinks true rest = newLinks member (key :: rest) := by
  cases rest with
  | nil => rfl
  | cons first rest => rfl

theorem linkAll_links :
    (shared.linkAll news).links = shared.links ++ newLinks shared.member news := by
  induction news generalizing shared with
  | nil => simp [linkAll, newLinks]
  | cons key rest ih =>
    rw [linkAll, ih]
    simp only [link, append_assoc, singleton_append]
    rw [newLinks_append]

theorem linkAll_member : (shared.linkAll news).member = (shared.member || !news.isEmpty) := by
  induction news generalizing shared with
  | nil => simp [linkAll]
  | cons key rest ih =>
    rw [linkAll, ih]
    simp [link]

theorem fst_mem_of_newLinks {member : Bool} (hMem : entry ∈ newLinks member news) :
    entry.1 ∈ news := by
  cases news with
  | nil => exact nomatch hMem
  | cons key rest =>
    rcases mem_cons.mp hMem with rfl | hRest
    · simp
    · rcases mem_map.mp hRest with ⟨other, hOther, rfl⟩
      simp [hOther]

theorem snd_of_newLinks_true (hMem : entry ∈ newLinks true news) : entry.2 = true := by
  cases news with
  | nil => exact nomatch hMem
  | cons key rest =>
    rcases mem_cons.mp hMem with rfl | hRest
    · rfl
    · rcases mem_map.mp hRest with ⟨other, _, rfl⟩
      rfl

section

variable (hFits : Fits news olds shared)

include hFits

theorem Fits.linked : ∀ entry ∈ olds, entry ∈ (shared.linkAll news).links := by
  intro entry hMem
  rw [linkAll_links]
  exact mem_append_left _ (hFits.isLinked entry hMem)

theorem Fits.olds_eq_nil (hLinks : shared.links = []) : olds = [] := by
  rw [eq_nil_iff_forall_not_mem]
  intro entry hMem
  have hLinked := hFits.isLinked entry hMem
  rw [hLinks] at hLinked
  exact nomatch hLinked

theorem Fits.mem_olds (hMem : entry ∈ shared.links)
    (hKey : entry.1 ∈ olds.map Prod.fst) : entry ∈ olds := by
  rcases mem_map.mp hKey with ⟨other, hOther, hSame⟩
  have hLinked := hFits.isLinked other hOther
  have hEq : other = entry := inj_on_of_nodup_map hFits.linkKeys hLinked hMem hSame
  rw [← hEq]
  exact hOther

end

---- Unlinking

variable [DecidableEq Key]

def without (key : Key) (shared : Shared Key) : List (Key × Bool) :=
  shared.links.filter (fun other => decide (other.1 ≠ key))

def unlink (entry : Key × Bool) (shared : Shared Key) : Shared Key where
  member := shared.member && (entry.2 || !(shared.without entry.1).isEmpty)
  links := shared.without entry.1

def unlinkAll : List (Key × Bool) → Shared Key → Shared Key
| [], shared => shared
| entry :: rest, shared => unlinkAll rest (shared.unlink entry)

/- Make some links, then drop some of the earlier ones. -/
def reconcile (news : List Key) (olds : List (Key × Bool)) (shared : Shared Key) : Shared Key :=
  (shared.linkAll news).unlinkAll olds

theorem mem_unlinkAll_links :
    entry ∈ (shared.unlinkAll olds).links ↔ entry ∈ shared.links ∧ entry.1 ∉ olds.map Prod.fst := by
  induction olds generalizing shared with
  | nil => simp [unlinkAll]
  | cons first rest ih =>
    rw [unlinkAll, ih]
    simp only [unlink, without, mem_filter, decide_eq_true_eq, map_cons, mem_cons,
      not_or, and_assoc]

variable {last : Key × Bool}

theorem unlinkAll_member (hLinked : ∀ entry ∈ olds, entry ∈ shared.links)
    (hKeys : (olds.map Prod.fst).Nodup) (hLast : olds.getLast? = some last) :
    (shared.unlinkAll olds).member =
      (shared.member && (last.2 || !(shared.unlinkAll olds).links.isEmpty)) := by
  induction olds generalizing shared with
  | nil => exact nomatch hLast
  | cons first rest ih =>
    cases rest with
    | nil =>
      cases hLast
      rfl
    | cons second rest =>
      rw [map_cons, nodup_cons] at hKeys
      have hRest : ∀ entry ∈ second :: rest, entry ∈ (shared.unlink first).links := by
        intro entry hMem
        apply mem_filter.mpr
        refine ⟨hLinked entry (by simp [hMem]), ?_⟩
        rw [decide_eq_true_eq]
        intro hSame
        apply hKeys.1
        rw [← hSame]
        exact mem_map_of_mem hMem
      have hMember : (shared.unlink first).member = shared.member := by
        have hSecond := hRest second (by simp)
        have hSome : (shared.without first.1).isEmpty = false := by
          rw [isEmpty_eq_false_iff_exists_mem]
          exact ⟨second, hSecond⟩
        simp [unlink, hSome]
      rw [unlinkAll, ih hRest hKeys.2 hLast, hMember]

---- Reconciling

section

variable (hFits : Fits news olds shared)

include hFits

theorem mem_reconcile_links : entry ∈ (shared.reconcile news olds).links ↔ (entry ∈ shared.links ∧
    entry.1 ∉ olds.map Prod.fst) ∨ entry ∈ newLinks shared.member news := by
  unfold reconcile
  rw [mem_unlinkAll_links, linkAll_links, mem_append]
  constructor
  · intro hEntry
    rcases hEntry with ⟨hOld | hNew, hKept⟩
    · exact .inl ⟨hOld, hKept⟩
    · exact .inr hNew
  intro hEntry
  rcases hEntry with ⟨hOld, hKept⟩ | hNew
  · exact ⟨.inl hOld, hKept⟩
  · refine ⟨.inr hNew, ?_⟩
    intro hDropped
    rcases mem_map.mp hDropped with ⟨other, hOther, hSame⟩
    apply hFits.newKeys entry.1 (fst_mem_of_newLinks hNew)
    rw [← hSame]
    exact mem_map_of_mem (hFits.isLinked other hOther)

theorem reconcile_links_eq_nil_iff : (shared.reconcile news olds).links = [] ↔
    news = [] ∧ ∀ entry ∈ shared.links, entry.1 ∈ olds.map Prod.fst := by
  rw [eq_nil_iff_forall_not_mem]
  constructor
  · intro hNone
    constructor
    · cases news with
      | nil => rfl
      | cons key rest =>
        exfalso
        apply hNone (key, shared.member)
        rw [mem_reconcile_links hFits]
        exact .inr (by simp [newLinks])
    · intro entry hMem
      by_contra hKept
      apply hNone entry
      rw [mem_reconcile_links hFits]
      exact .inl ⟨hMem, hKept⟩
  · intro hAll entry hMem
    rcases hAll with ⟨rfl, hAll⟩
    rw [mem_reconcile_links hFits] at hMem
    rcases hMem with ⟨hOld, hKept⟩ | hNew
    · exact hKept (hAll entry hOld)
    · exact nomatch hNew

theorem reconcile_member (hLast : olds.getLast? = some last) :
    (shared.reconcile news olds).member = ((shared.member || !news.isEmpty) &&
      (last.2 || !(shared.reconcile news olds).links.isEmpty)) := by
  unfold reconcile
  rw [unlinkAll_member hFits.linked hFits.oldKeys hLast, linkAll_member]

end

theorem reconcile_nil : shared.reconcile news [] = shared.linkAll news := rfl

section

variable (hFits : Fits news olds shared)

include hFits

/- A membership ends exactly if all links go, none is made, and the last does not keep it. -/
theorem reconcile_member_eq_false_iff (hMember : shared.member = true) :
    (shared.reconcile news olds).member = false ↔ news = [] ∧
      (∀ entry ∈ shared.links, entry.1 ∈ olds.map Prod.fst) ∧
      ∃ last, olds.getLast? = some last ∧ last.2 = false := by
  cases hLast : olds.getLast? with
  | none =>
    rw [getLast?_eq_none_iff] at hLast
    subst hLast
    rw [reconcile_nil, linkAll_member, hMember]
    simp
  | some last =>
    rw [reconcile_member hFits hLast, hMember, ← and_assoc, ← reconcile_links_eq_nil_iff hFits]
    cases hFlag : last.2 with
    | false => simp [hFlag]
    | true => simp [hFlag]

/- Whoever has a link is a member. -/
def Sound (shared : Shared Key) : Prop := shared.links ≠ [] → shared.member = true

theorem Sound.reconcile (hSound : Sound shared) : Sound (shared.reconcile news olds) := by
  intro hLeft
  have hMember : (shared.member || !news.isEmpty) = true := by
    cases news with
    | cons key rest => simp
    | nil =>
      rcases exists_mem_of_ne_nil _ hLeft with ⟨entry, hEntry⟩
      rw [mem_reconcile_links hFits] at hEntry
      rcases hEntry with ⟨hOld, _⟩ | hNew
      · rw [hSound (ne_nil_of_mem hOld)]
        rfl
      · exact nomatch hNew
  cases hLast : olds.getLast? with
  | none =>
    rw [getLast?_eq_none_iff] at hLast
    subst hLast
    rw [reconcile_nil, linkAll_member]
    exact hMember
  | some last =>
    rw [reconcile_member hFits hLast, hMember]
    simp [hLeft]

---- Who Made The Membership

section

variable (shared : Shared Key)

/- There is no membership and no link. -/
def Clean : Prop := shared.member = false ∧ shared.links = []

/- One link made the membership, and the others found it. -/
def Held : Prop :=
  shared.member = true ∧ ∃ key, (key, false) ∈ shared.links ∧
    ∀ entry ∈ shared.links, entry.2 = false → entry = (key, false)

/- There is a membership that no link will end. -/
def Stuck : Prop :=
  shared.member = true ∧ ∀ entry ∈ shared.links, entry.2 = true

/- The membership is there only as long as its links are. -/
def Open : Prop := Clean shared ∨ Held shared

end

/- The link that made the membership is dropped only with all the others, and after them. -/
def Undoes (news : List Key) (olds : List (Key × Bool)) (shared : Shared Key) : Prop :=
  ∀ entry ∈ olds, entry.2 = false →
    news = [] ∧ (∀ other ∈ shared.links, other.1 ∈ olds.map Prod.fst) ∧ olds.getLast? = some entry

theorem Clean.reconcile (hClean : Clean shared) : Open (shared.reconcile news olds) := by
  rcases hClean with ⟨hMember, hLinks⟩
  have hOlds := hFits.olds_eq_nil hLinks
  subst hOlds
  rw [reconcile_nil]
  cases news with
  | nil => exact .inl ⟨hMember, hLinks⟩
  | cons key rest =>
    right
    refine ⟨?_, key, ?_, ?_⟩
    · rw [linkAll_member]
      simp
    · rw [linkAll_links, hLinks, hMember]
      simp [newLinks]
    · intro entry hMem hFalse
      rw [linkAll_links, hLinks, hMember] at hMem
      rcases mem_cons.mp hMem with hFirst | hRest
      · exact hFirst
      · rcases mem_map.mp hRest with ⟨other, _, rfl⟩
        exact nomatch hFalse

theorem Stuck.reconcile (hStuck : Stuck shared) : Stuck (shared.reconcile news olds) := by
  rcases hStuck with ⟨hMember, hKeeps⟩
  constructor
  · rw [← Bool.not_eq_false, reconcile_member_eq_false_iff hFits hMember]
    rintro ⟨_, _, last, hLast, hFalse⟩
    have hLinked := hFits.isLinked last (mem_of_getLast? hLast)
    rw [hKeeps last hLinked] at hFalse
    exact nomatch hFalse
  · intro entry hMem
    rw [mem_reconcile_links hFits, hMember] at hMem
    rcases hMem with ⟨hOld, _⟩ | hNew
    · exact hKeeps entry hOld
    · exact snd_of_newLinks_true hNew

theorem Held.reconcile (hHeld : Held shared) :
    (Undoes news olds shared → Open (shared.reconcile news olds)) ∧
      (¬ Undoes news olds shared → Stuck (shared.reconcile news olds)) := by
  rcases hHeld with ⟨hMember, key, hMade, hOnly⟩
  -- the other links that are left keep the membership
  have hOthers : ∀ entry ∈ (shared.reconcile news olds).links,
    entry.2 = false → entry = (key, false) ∧ key ∉ olds.map Prod.fst := by
    intro entry hMem hFalse
    rw [mem_reconcile_links hFits, hMember] at hMem
    rcases hMem with ⟨hOld, hKept⟩ | hNew
    · have hEq := hOnly entry hOld hFalse
      subst hEq
      exact ⟨rfl, hKept⟩
    · rw [snd_of_newLinks_true hNew] at hFalse
      exact nomatch hFalse
  by_cases hDropped : (key, false) ∈ olds
  · have hKey : key ∈ olds.map Prod.fst := mem_map_of_mem hDropped
    constructor
    · intro hUndoes
      rcases hUndoes (key, false) hDropped rfl with ⟨hNews, hAll, hLast⟩
      left
      constructor
      · rw [reconcile_member_eq_false_iff hFits hMember]
        exact ⟨hNews, hAll, _, hLast, rfl⟩
      · rw [reconcile_links_eq_nil_iff hFits]
        exact ⟨hNews, hAll⟩
    · intro hNot
      constructor
      · rw [← Bool.not_eq_false, reconcile_member_eq_false_iff hFits hMember]
        rintro ⟨hNews, hAll, last, hLast, hFalse⟩
        apply hNot
        intro entry hEntry hFlag
        have hEq := hOnly entry (hFits.isLinked entry hEntry) hFlag
        have hEq' := hOnly last (hFits.isLinked last (mem_of_getLast? hLast)) hFalse
        refine ⟨hNews, hAll, ?_⟩
        rw [hEq, ← hEq']
        exact hLast
      · intro entry hMem
        rw [← Bool.not_eq_false]
        intro hFalse
        exact (hOthers entry hMem hFalse).2 hKey
  · have hKey : key ∉ olds.map Prod.fst := by
      intro hKey
      exact hDropped (hFits.mem_olds hMade hKey)
    have hFlags : ∀ entry ∈ olds, entry.2 = true := by
      intro entry hEntry
      rw [← Bool.not_eq_false]
      intro hFalse
      have hEq := hOnly entry (hFits.isLinked entry hEntry) hFalse
      rw [hEq] at hEntry
      exact hDropped hEntry
    constructor
    · intro _
      right
      refine ⟨?_, key, ?_, ?_⟩
      · rw [← Bool.not_eq_false, reconcile_member_eq_false_iff hFits hMember]
        rintro ⟨_, hAll, _⟩
        exact hKey (hAll _ hMade)
      · rw [mem_reconcile_links hFits]
        exact .inl ⟨hMade, hKey⟩
      · intro entry hMem hFalse
        exact (hOthers entry hMem hFalse).1
    · intro hNot
      exfalso
      apply hNot
      intro entry hEntry hFalse
      rw [hFlags entry hEntry] at hFalse
      exact nomatch hFalse

theorem Open.reconcile (hOpen : Open shared) :
    (Undoes news olds shared → Open (shared.reconcile news olds)) ∧
      (¬ Undoes news olds shared → Stuck (shared.reconcile news olds)) := by
  rcases hOpen with hClean | hHeld
  · refine ⟨fun _ => hClean.reconcile hFits, ?_⟩
    intro hNot
    exfalso
    apply hNot
    rw [hFits.olds_eq_nil hClean.2]
    intro entry hMem
    exact nomatch hMem
  · exact hHeld.reconcile hFits

end

end Shared

end PamOlive.Foundations
