import PamOlive.Sessions.Quota

/-
  How often a lease is used.

  Leases are issued, consumed and revoked in any order; the system remembers the tokens for which a
  secret was returned. All sites hash tokens alike, but a keyring may fail at any time, and the
  rest of the database may be edited.
-/

---- Sequences Of Calls

namespace PamOlive.Vault

open Foundations Sessions Table List

structure LeaseState where
  db : Database
  returned : List Text

inductive LeaseLabel where
  | issue (site : Site) (moment : Moment) (call : LeaseCall)
  | consume (site : Site) (moment : Moment) (token : Text) (expectedUser : Option UserId)
    (expectedPurpose : Option LeasePurpose)
  | revoke (site : Site) (moment : Moment) (held : SecretLease) (actor : UserId)
  | edit (db : Database)

inductive LeaseStep (hash : Text → Text) (state : LeaseState) : LeaseLabel → LeaseState → Prop
  | issued {site : Site} {moment : Moment} {call : LeaseCall}
    (hHash : site.services.sha256 = hash) :
    LeaseStep hash state (.issue site moment call)
      ⟨(issueSecretLease site moment call state.db).2, state.returned⟩
  | consumed {site : Site} {moment : Moment} {token : Text}
    {expectedUser : Option UserId} {expectedPurpose : Option LeasePurpose}
    {result : SecretLease × Text} {after : Database}
    (hHash : site.services.sha256 = hash)
    (hConsume : consumeSecretLease site moment token expectedUser expectedPurpose state.db =
      .ok (result, after)) :
    LeaseStep hash state (.consume site moment token expectedUser expectedPurpose)
      ⟨after, token :: state.returned⟩
  | refused {site : Site} {moment : Moment} {token : Text}
    {expectedUser : Option UserId} {expectedPurpose : Option LeasePurpose} {failure : Failure}
    (hConsume : consumeSecretLease site moment token expectedUser
      expectedPurpose state.db = .error failure) :
    LeaseStep hash state (.consume site moment token expectedUser expectedPurpose) state
  | revoked {site : Site} {moment : Moment} {held : SecretLease}
    {actor : UserId} :
    LeaseStep hash state (.revoke site moment held actor)
      ⟨(revokeSecretLease site moment held actor state.db).2, state.returned⟩
  | edited {after : Database} (hLeases : after.leases = state.db.leases) :
    LeaseStep hash state (.edit after) ⟨after, state.returned⟩

/- Start before the first lease. -/
def leaseSystem (hash : Text → Text) : TransitionSystem LeaseState LeaseLabel where
  init := fun state =>
    state.db.leases.rows = [] ∧ state.returned = []
  step := LeaseStep hash

---- Changes Of A Lease

def usedLease (now : Int) (lease : SecretLease) : SecretLease :=
  { lease with useCount := lease.useCount + 1, consumedAt := some now }

/- What a call does to the row with one token hash, and how many secrets it returns for it. -/
inductive LeaseChange : Option SecretLease → Nat → Option SecretLease → Prop
  | same {row : Option SecretLease} : LeaseChange row 0 row
  | issued {lease : SecretLease} (hUnused : lease.useCount = 0) : LeaseChange none 0 (some lease)
  | used {lease : SecretLease} (now : Int)
    (hUsable : lease.revokedAt = none ∧ now < lease.expiresAt ∧ lease.useCount < lease.maxUses) :
    LeaseChange (some lease) 1 (some (usedLease now lease))
  | revoked {lease : SecretLease} (now : Int) :
    LeaseChange (some lease) 0 (some (revokedLease now lease))

variable {token : Text} {held : SecretLease} {actor : UserId}

section Calls

variable {site : Site} {moment : Moment} {db after : Database}

theorem leaseChange_of_issue {call : LeaseCall} (tokenHash : Text) :
    LeaseChange (db.leases.get tokenHash) 0
      ((issueSecretLease site moment call db).2.leases.get tokenHash) := by
  have hInserted : ∀ lease leases, newLease site moment call db = .ok lease →
    db.leases.insert lease = some leases →
      LeaseChange (db.leases.get tokenHash) 0 (leases.get tokenHash) := by
    intro lease leases hNew hInsert
    by_cases hSame : tokenHash = lease.tokenHash
    · rcases insert_eq_some_iff.mp hInsert with ⟨hFresh, _⟩
      subst hSame
      rw [get_eq_none_iff.mpr hFresh, get_insert_self hInsert]
      rcases newLease_eq_ok_iff.mp hNew with ⟨_, _, _, _, _, _, _, _, _, _, _, rfl⟩
      exact .issued rfl
    · rw [get_insert_of_ne hInsert hSame]
      exact .same
  unfold issueSecretLease
  split
  · exact .same
  rename_i lease hNew
  split
  · exact .same
  rename_i leases hInsert
  have hChange := hInserted lease leases hNew hInsert
  dsimp only
  split
  · exact hChange
  · rename_i hRecord
    rcases Database.recordEvent_eq_ok hRecord with ⟨_, rfl⟩
    exact hChange

theorem leaseChange_of_consume
    {expectedUser : Option UserId} {expectedPurpose : Option LeasePurpose}
    {result : SecretLease × Text}
    (hConsume :
      consumeSecretLease site moment token expectedUser expectedPurpose db = .ok (result, after))
    (tokenHash : Text) :
    LeaseChange (db.leases.get tokenHash) (if site.services.sha256 token = tokenHash then 1 else 0)
      (after.leases.get tokenHash) := by
  rcases consumeSecretLease_eq_ok_iff.mp hConsume with
    ⟨credential, hLease, hUsable, _, _, _, hRecord, _⟩
  rcases Database.recordEvent_eq_ok hRecord with ⟨_, rfl⟩
  unfold checkedOut
  by_cases hSame : site.services.sha256 token = tokenHash
  · subst hSame
    rw [if_pos rfl, get_modify_self hLease, hLease]
    exact .used moment.now hUsable
  · rw [if_neg hSame, get_modify_of_ne (Ne.symm hSame)]
    exact .same

theorem leases_revokeSecretLease {lease : SecretLease}
    (hHeld : held.revokedAt = none) (hLease : db.leases.get held.tokenHash = some lease) :
    (revokeSecretLease site moment held actor db).2.leases = db.leases.modify held.tokenHash
      (revokedLease moment.now) (revokedLease_tokenHash moment.now) := by
  unfold revokeSecretLease
  rw [if_neg (by simp [hHeld]), hLease]
  dsimp only
  split
  · rfl
  · rename_i hRecord
    rcases Database.recordEvent_eq_ok hRecord with ⟨_, rfl⟩
    rfl

theorem leaseChange_of_revoke (tokenHash : Text) : LeaseChange (db.leases.get tokenHash) 0
    ((revokeSecretLease site moment held actor db).2.leases.get tokenHash) := by
  by_cases hHeld : held.revokedAt = none
  · cases hLease : db.leases.get held.tokenHash with
    | none =>
      unfold revokeSecretLease
      rw [hLease, if_neg (by simp [hHeld])]
      exact .same
    | some lease =>
      rw [leases_revokeSecretLease hHeld hLease]
      by_cases hSame : tokenHash = held.tokenHash
      · subst hSame
        rw [get_modify_self hLease, hLease]
        exact .revoked moment.now
      · rw [get_modify_of_ne hSame]
        exact .same
  · unfold revokeSecretLease
    rw [if_pos hHeld]
    exact .same

theorem revoked_of_revokeSecretLease {lease : SecretLease}
    (hHeld : held.revokedAt = none) (hLease : db.leases.get held.tokenHash = some lease) :
    (revokeSecretLease site moment held actor db).2.leases.get held.tokenHash =
      some (revokedLease moment.now lease) := by
  rw [leases_revokeSecretLease hHeld hLease, get_modify_self hLease]

end Calls

---- Counting Uses

section Runs

variable {hash : Text → Text} {start state after later : LeaseState} {label : LeaseLabel}
variable {labels : List LeaseLabel} {tokenHash : Text}

/- How often a secret was returned for a token hash. -/
def usesOf (hash : Text → Text) (tokenHash : Text) (returned : List Text) : Nat :=
  returned.countP (fun token => decide (hash token = tokenHash))

variable {returned : List Text}

theorem usesOf_cons : usesOf hash tokenHash (token :: returned) =
    (if hash token = tokenHash then 1 else 0) + usesOf hash tokenHash returned := by
  unfold usesOf
  rw [countP_cons]
  simp only [decide_eq_true_eq]
  exact Nat.add_comm _ _

theorem count_le_usesOf : returned.count token ≤ usesOf hash (hash token) returned := by
  apply countP_mono_left
  intro other _ hSame
  rw [beq_iff_eq] at hSame
  simp [hSame]

theorem leaseChange_of_step (hStep : LeaseStep hash state label after) (tokenHash : Text) :
    ∃ uses, LeaseChange (state.db.leases.get tokenHash) uses (after.db.leases.get tokenHash) ∧
      usesOf hash tokenHash after.returned = uses + usesOf hash tokenHash state.returned := by
  cases hStep with
  | issued _ => exact ⟨0, leaseChange_of_issue tokenHash, (Nat.zero_add _).symm⟩
  | consumed hHash hConsume =>
    have hChange := leaseChange_of_consume hConsume tokenHash
    rw [hHash] at hChange
    exact ⟨_, hChange, usesOf_cons⟩
  | refused _ => exact ⟨0, .same, (Nat.zero_add _).symm⟩
  | revoked => exact ⟨0, leaseChange_of_revoke tokenHash, (Nat.zero_add _).symm⟩
  | edited hLeases =>
    refine ⟨0, ?_, (Nat.zero_add _).symm⟩
    rw [hLeases]
    exact .same

/- The counter of a lease is the number of secrets returned for it, and within its limit. -/
def UsesCounted (hash : Text → Text) (tokenHash : Text) (state : LeaseState) : Prop :=
  match state.db.leases.get tokenHash with
  | none => usesOf hash tokenHash state.returned = 0
  | some lease =>
    usesOf hash tokenHash state.returned = lease.useCount ∧ lease.useCount ≤ lease.maxUses

theorem UsesCounted.step (hCounted : UsesCounted hash tokenHash state)
    (hStep : LeaseStep hash state label after) : UsesCounted hash tokenHash after := by
  rcases leaseChange_of_step hStep tokenHash with ⟨uses, hChange, hUses⟩
  unfold UsesCounted at hCounted ⊢
  rw [hUses]
  generalize state.db.leases.get tokenHash = row at hChange hCounted
  generalize after.db.leases.get tokenHash = row' at hChange
  cases hChange with
  | same =>
    rw [Nat.zero_add]
    exact hCounted
  | issued hUnused =>
    dsimp only at hCounted ⊢
    rw [hCounted, hUnused]
    exact ⟨rfl, Nat.zero_le _⟩
  | used now hUsable =>
    dsimp only [usedLease] at hCounted ⊢
    omega
  | revoked now =>
    rw [Nat.zero_add]
    exact hCounted

theorem usesCounted_of_run (hInit : (leaseSystem hash).init start)
    (hRun : (leaseSystem hash).Run start labels state) : UsesCounted hash tokenHash state := by
  refine hRun.invariant ?_ ?_
  · intro before label after hBefore hStep
    exact hBefore.step hStep
  rcases hInit with ⟨hLeases, hReturned⟩
  have hNone : start.db.leases.get tokenHash = none := by
    apply get_eq_none_iff.mpr
    rw [hLeases]
    simp
  unfold UsesCounted
  rw [hNone, hReturned]
  rfl

def IsRevoked (tokenHash : Text) (state : LeaseState) : Prop :=
  ∃ lease, state.db.leases.get tokenHash = some lease ∧ lease.revokedAt ≠ none

theorem isRevoked_of_run (hRevoked : IsRevoked tokenHash state)
    (hRun : (leaseSystem hash).Run state labels later) : IsRevoked tokenHash later := by
  refine hRun.invariant ?_ hRevoked
  intro before label after hBefore hStep
  rcases hBefore with ⟨lease, hLease, hSet⟩
  rcases leaseChange_of_step hStep tokenHash with ⟨uses, hChange, _⟩
  rw [hLease] at hChange
  unfold IsRevoked
  generalize after.db.leases.get tokenHash = row at hChange
  cases hChange with
  | same => exact ⟨lease, rfl, hSet⟩
  | used now _ => exact ⟨_, rfl, hSet⟩
  | revoked now => exact ⟨_, rfl, by simp [revokedLease]⟩

---- The Limit

/-
  In every reachable state: each counter and the number of secrets returned for a token are within
  the limit; a secret is returned only for a lease that is neither expired nor revoked, to the
  expected user and purpose; never after a written revocation; and a call that raises leaves all
  rows as they were.
-/
theorem lease_use_limited (hInit : (leaseSystem hash).init start)
    (hRun : (leaseSystem hash).Run start labels state) :
    (∀ lease ∈ state.db.leases.rows, lease.useCount ≤ lease.maxUses) ∧ (∀ token lease,
      state.db.leases.get (hash token) = some lease → state.returned.count token ≤ lease.maxUses) ∧
    (∀ token, state.db.leases.get (hash token) = none → token ∉ state.returned) ∧
    (∀ site moment token expectedUser expectedPurpose lease secret after,
      site.services.sha256 = hash →
        consumeSecretLease site moment token expectedUser expectedPurpose state.db =
          .ok ((lease, secret), after) →
          state.db.leases.get (hash token) = some lease ∧ moment.now < lease.expiresAt ∧
            lease.revokedAt = none ∧ (∀ user, expectedUser = some user → user = lease.userId) ∧
            ∀ purpose, expectedPurpose = some purpose → purpose = lease.purpose) ∧
    (∀ site moment held actor lease labels' later, held.revokedAt = none →
        state.db.leases.get held.tokenHash = some lease → (leaseSystem hash).Run
          ⟨(revokeSecretLease site moment held actor state.db).2, state.returned⟩ labels' later →
        ∀ site' moment' token expectedUser expectedPurpose result,
          site'.services.sha256 token = held.tokenHash →
            consumeSecretLease site' moment' token expectedUser expectedPurpose later.db ≠
              .ok result) ∧
    ∀ site moment token expectedUser expectedPurpose failure after, commit
          (consumeSecretLease site moment token expectedUser expectedPurpose) state.db =
        (.error failure, after) → after = state.db := by
  have hCounted : ∀ tokenHash, UsesCounted hash tokenHash state :=
    fun tokenHash => usesCounted_of_run hInit hRun
  refine ⟨?_, ?_, ?_, ?_, ?_, ?_⟩
  · intro lease hMem
    have hUses := hCounted lease.tokenHash
    unfold UsesCounted at hUses
    rw [get_eq_some_iff.mpr ⟨hMem, rfl⟩] at hUses
    exact hUses.2
  · intro token lease hLease
    have hUses := hCounted (hash token)
    unfold UsesCounted at hUses
    rw [hLease] at hUses
    calc state.returned.count token ≤ usesOf hash (hash token) state.returned := count_le_usesOf
      _ = lease.useCount := hUses.1
      _ ≤ lease.maxUses := hUses.2
  · intro token hNone
    have hUses := hCounted (hash token)
    unfold UsesCounted at hUses
    rw [hNone] at hUses
    apply count_eq_zero.mp
    apply Nat.le_zero.mp
    rw [← hUses]
    exact count_le_usesOf
  · intro site moment token expectedUser expectedPurpose lease secret after hHash hConsume
    rcases consumeSecretLease_eq_ok_iff.mp hConsume with ⟨_, hLease, hUsable, hUser, hPurpose, _⟩
    rw [hHash] at hLease
    refine ⟨hLease, hUsable.2.1, hUsable.1, ?_, ?_⟩
    · intro user hSome
      subst hSome
      exact of_decide_eq_true hUser
    · intro purpose hSome
      subst hSome
      exact of_decide_eq_true hPurpose
  · intro site moment held actor lease labels' later hHeld
      hLease hLater site' moment' token expectedUser
      expectedPurpose result hToken
    have hRevoked := isRevoked_of_run
      ⟨_, revoked_of_revokeSecretLease hHeld hLease, by simp [revokedLease]⟩ hLater
    intro hConsume
    rcases consumeSecretLease_eq_ok_iff.mp hConsume with ⟨_, hRow, hUsable, _⟩
    rcases hRevoked with ⟨_, hSame, hSet⟩
    rw [← hToken, hRow] at hSame
    cases hSame
    exact hSet hUsable.1
  · intro site moment token expectedUser expectedPurpose failure after hCommit
    exact (commit_eq_error_iff.mp hCommit).2

end Runs

def sampleLeaseCall : LeaseCall where
  user := sampleUser
  credentialId := 2
  justification := "maintenance"
  purpose := .session
  lifetimeSeconds := 60
  sourceIp := none
  mfaVerifiedAt := none
  leaseId := 6
  token := "lease"

theorem lease_use_limited_sample :
    ∃ lease issued consumed secret final, issueSecretLease sampleSite sampleMoment sampleLeaseCall
      (sampleDatabase sampleCredential samplePolicies) = (.ok lease, issued) ∧
      consumeSecretLease sampleSite sampleMoment "lease" (some sampleUser) (some .session) issued =
        .ok ((consumed, secret), final) ∧
      secret = "secret" ∧ ∀ lease ∈ final.leases.rows, lease.useCount ≤ lease.maxUses := by
  refine ⟨_, _, _, _, _, rfl, rfl, rfl, ?_⟩
  have hRun : (leaseSystem plainServices.sha256).Run
    ⟨sampleDatabase sampleCredential samplePolicies, []⟩
    [.issue sampleSite sampleMoment sampleLeaseCall,
      .consume sampleSite sampleMoment "lease" (some sampleUser) (some .session)] ⟨_, ["lease"]⟩ :=
    .cons (.issued rfl) (.cons (.consumed rfl rfl) (.nil _))
  exact (lease_use_limited ⟨rfl, rfl⟩ hRun).1

end PamOlive.Vault
