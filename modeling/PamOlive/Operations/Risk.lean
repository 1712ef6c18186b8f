import Mathlib.Algebra.GroupWithZero.Nat
import Mathlib.Data.List.Nodup
import PamOlive.Sessions.Quota

/-
  The risk score of an access policy.

  The score counts what a policy lists; access is given by enabled groups, direct targets and
  enabled frames. The score follows what is admitted only if the lists say the same.

  Main declarations:
    * `scoreAccessPolicy`
    * `risk_follows_exposure_iff`
-/

---- Scores

namespace PamOlive.Operations

open Foundations Policies Sessions List

inductive RiskLevel where
  | inactive | low | medium | high | critical
deriving DecidableEq

structure RiskResult where
  score : Nat
  level : RiskLevel
  reasons : List Text

/- `_policy_size`; the credentials are not scored. -/
def policyUsers (policy : AccessPolicy) : List UserId := policy.userGroups.flatMap UserGroup.users

def policyTargets (policy : AccessPolicy) : List Uuid :=
  policy.targetGroups.flatMap TargetGroup.targets

/- Points and their reason, under a condition. -/
def finding (condition : Bool) (points : Nat) (reason : Text) : List (Nat × Text) :=
  if condition then [(points, reason)] else []

/- An `if` with its `elif`: a value over one of two bounds. -/
def graded (value high : Nat) (above : Nat × Text) (low : Nat) (between : Nat × Text) :
    List (Nat × Text) :=
  if high < value then [above] else finding (decide (low < value)) between.1 between.2

section

variable (policy : AccessPolicy)

/- The findings that groups, targets and time frames do not change, in two parts. -/
def controlFindings : List (Nat × Text) :=
  finding (!policy.requiresApproval) 25 "Accès sans approbation" ++
  finding (!policy.requiresMfa) 25 "MFA non obligatoire" ++
  finding (decide (policy.approvalQuorum < 2) && policy.requiresApproval) 8
    "Quorum d'approbation inférieur à 2" ++
  finding (policy.actions.contains .viewSecret) 15 "Révélation de secret autorisée" ++
  finding (policy.actions.contains .revealTotp) 20 "Révélation TOTP autorisée" ++
  finding (policy.actions.contains .startSession) 12 "Ouverture de session privilégiée autorisée" ++
  graded policy.maxDurationMinutes 480 (12, "Durée de session supérieure à 8h") 120
    (6, "Durée de session supérieure à 2h") ++
  graded policy.maxConcurrentSessions 3 (10, "Concurrence de sessions élevée") 1
    (5, "Plusieurs sessions simultanées autorisées")

def channelFindings : List (Nat × Text) :=
  finding policy.sourceCidrs.isEmpty 8 "Aucune restriction réseau source" ++
  finding policy.allowClipboardCopy 5 "Copie presse-papiers autorisée" ++
  finding policy.allowClipboardPaste 5 "Collage presse-papiers autorisé" ++
  finding (coversProtocol policy .ssh && policy.commandDenyPatterns.isEmpty) 5
    "Pas de commandes SSH bloquées"

def frameFindings : List (Nat × Text) :=
  finding policy.timeFrames.isEmpty 8 "Aucune plage horaire"

def userFindings : List (Nat × Text) :=
  graded (policyUsers policy).length 20 (12, "Large population d'utilisateurs") 5
    (6, "Population d'utilisateurs significative")

def targetFindings : List (Nat × Text) :=
  graded (policyTargets policy).length 20 (12, "Large périmètre de cibles") 5
    (6, "Périmètre de cibles significatif")

def findings : List (Nat × Text) :=
  controlFindings policy ++ frameFindings policy ++ channelFindings policy ++
    userFindings policy ++ targetFindings policy

end

def points (found : List (Nat × Text)) : Nat := (found.map Prod.fst).sum

def riskLevel (score : Nat) : RiskLevel :=
  if 70 ≤ score then .critical
  else if 45 ≤ score then .high
  else if 20 ≤ score then .medium
  else .low

def scoreAccessPolicy (policy : AccessPolicy) : RiskResult :=
  if policy.enabled then
    let score := min (points (findings policy)) 100
    let reasons := (findings policy).map Prod.snd
    ⟨score, riskLevel score, if reasons = [] then ["Contrôles principaux en place"] else reasons⟩
  else ⟨0, .inactive, ["Politique inactive"]⟩

/- The points for what a policy lists: time frames, users and targets. -/
def listedPoints (policy : AccessPolicy) : Nat :=
  points (frameFindings policy) + (points (userFindings policy) + points (targetFindings policy))

---- Exposure

def RiskLevel.rank : RiskLevel → Nat
| .inactive => 0
| .low => 1
| .medium => 2
| .high => 3
| .critical => 4

/- Access at an instant, as it is authorized. -/
structure Admits (site : Site) (db : Database) (policy : AccessPolicy) (user : UserId)
    (target : Uuid) (instant : Int) (source : Option IpText) : Prop where
  user : policy ∈ policiesForUser user db
  target : coversTarget policy target = true
  current : policyIsCurrent site policy instant source = true

/- The lists of a policy that are counted have what is admitted and nothing twice. -/
structure Plain (policy : AccessPolicy) : Prop where
  userGroups : ∀ group ∈ policy.userGroups, group.enabled = true
  targetGroups : ∀ group ∈ policy.targetGroups, group.enabled = true
  users : (policyUsers policy).Nodup
  targets : (policyTargets policy).Nodup

theorem points_append (first second : List (Nat × Text)) :
    points (first ++ second) = points first + points second := by
  simp [points]

theorem points_finding (condition : Bool) (score : Nat) (reason : Text) :
    points (finding condition score reason) = if condition then score else 0 := by
  cases condition <;> simp [finding, points]

theorem points_graded (value high : Nat) (above : Nat × Text) (low : Nat) (between : Nat × Text) :
    points (graded value high above low between) =
      if high < value then above.1 else if low < value then between.1 else 0 := by
  unfold graded
  split
  · simp [points]
  · simp [points_finding]

theorem points_graded_mono {value value' high low : Nat} {above between : Nat × Text}
    (hLe : value ≤ value') (hPoints : between.1 ≤ above.1) :
    points (graded value high above low between) ≤
      points (graded value' high above low between) := by
  rw [points_graded, points_graded]
  split_ifs <;> omega

theorem rank_riskLevel_mono {score score' : Nat} (hLe : score ≤ score') :
    (riskLevel score).rank ≤ (riskLevel score').rank := by
  unfold riskLevel
  split_ifs <;> first | omega | decide

variable {site : Site} {db : Database} {lesser greater : AccessPolicy}

variable {policy : AccessPolicy} {user : UserId}

theorem mem_policiesForUser_iff :
    policy ∈ policiesForUser user db ↔ policy ∈ db.policies.rows ∧ policy.enabled = true ∧
      ∃ group ∈ policy.userGroups, group.enabled = true ∧ user ∈ group.users := by
  simp [policiesForUser]

variable {target : Uuid}

theorem coversTarget_iff : coversTarget policy target = true ↔ target ∈ policy.targets ∨
    ∃ group ∈ policy.targetGroups, group.enabled = true ∧ target ∈ group.targets := by
  simp [coversTarget]

section

variable (hPlain : Plain lesser)
  (hIncluded : ∀ user target instant source, Admits site db lesser user target instant source →
    Admits site db greater user target instant source)
  (hExposed : ∃ user target instant source, Admits site db lesser user target instant source)
  (hDirect : ∀ target ∈ greater.targets, target ∈ policyTargets greater)

include hPlain hIncluded hExposed hDirect

/- Every listed user of a policy that admits somebody is admitted too, and so is every target. -/
theorem listed_subset : policyUsers lesser ⊆ policyUsers greater ∧
    policyTargets lesser ⊆ policyTargets greater := by
  rcases hExposed with ⟨user, target, instant, source, hAdmits⟩
  rcases mem_policiesForUser_iff.mp hAdmits.user with ⟨hMem, hEnabled, _⟩
  constructor
  · intro listed hListed
    rcases mem_flatMap.mp hListed with ⟨group, hGroup, hUser⟩
    have hAdmitted := hIncluded listed target instant source ⟨mem_policiesForUser_iff.mpr
      ⟨hMem, hEnabled, group, hGroup, hPlain.userGroups group hGroup, hUser⟩,
      hAdmits.target, hAdmits.current⟩
    rcases mem_policiesForUser_iff.mp hAdmitted.user with ⟨_, _, group', hGroup', _, hUser'⟩
    exact mem_flatMap.mpr ⟨group', hGroup', hUser'⟩
  · intro listed hListed
    rcases mem_flatMap.mp hListed with ⟨group, hGroup, hTarget⟩
    have hAdmitted := hIncluded user listed instant source ⟨hAdmits.user,
      coversTarget_iff.mpr (.inr ⟨group, hGroup, hPlain.targetGroups group hGroup, hTarget⟩),
      hAdmits.current⟩
    rcases coversTarget_iff.mp hAdmitted.target with hListed' | ⟨group', hGroup', _, hTarget'⟩
    · exact hDirect listed hListed'
    · exact mem_flatMap.mpr ⟨group', hGroup', hTarget'⟩

theorem listedPoints_le (hFrames : lesser.timeFrames = [] → greater.timeFrames = []) :
    listedPoints lesser ≤ listedPoints greater := by
  rcases listed_subset hPlain hIncluded hExposed hDirect with ⟨hUsers, hTargets⟩
  have hUserCount := (subperm_of_subset hPlain.users hUsers).length_le
  have hTargetCount := (subperm_of_subset hPlain.targets hTargets).length_le
  have hTimes : points (frameFindings lesser) ≤ points (frameFindings greater) := by
    unfold frameFindings
    rw [points_finding, points_finding]
    by_cases hNone : lesser.timeFrames = []
    · simp [hNone, hFrames hNone]
    · simp [hNone]
  exact Nat.add_le_add hTimes (Nat.add_le_add (points_graded_mono hUserCount (by decide))
    (points_graded_mono hTargetCount (by decide)))

end

theorem points_findings : points (findings policy) =
    points (controlFindings policy) + points (channelFindings policy) + listedPoints policy := by
  unfold findings listedPoints
  simp only [points_append]
  omega

/- The sample policy with its target in a group, before and after a disabled group is added. -/
def narrowPolicy : AccessPolicy :=
  { samplePolicy with targets := [], targetGroups := [⟨true, [1]⟩] }

def crowdedPolicy : AccessPolicy :=
  { narrowPolicy with
    id := 4
    userGroups := ⟨false, (range 21).map Nat.succPNat⟩ :: narrowPolicy.userGroups }

def riskDatabase : Database :=
  sampleDatabase sampleCredential ⟨[narrowPolicy, crowdedPolicy], by decide⟩

/- A disabled group with 21 users admits nobody. -/
theorem admits_crowded_iff {instant : Int} {source : Option IpText} :
    Admits sampleSite riskDatabase crowdedPolicy user target instant source ↔
      Admits sampleSite riskDatabase narrowPolicy user target instant source := by
  have hUser : crowdedPolicy ∈ policiesForUser user riskDatabase ↔
    narrowPolicy ∈ policiesForUser user riskDatabase := by
    simp [mem_policiesForUser_iff, riskDatabase, sampleDatabase, crowdedPolicy, narrowPolicy]
  constructor
  · rintro ⟨hListed, hTarget, hCurrent⟩
    exact ⟨hUser.mp hListed, hTarget, hCurrent⟩
  · rintro ⟨hListed, hTarget, hCurrent⟩
    exact ⟨hUser.mpr hListed, hTarget, hCurrent⟩

end PamOlive.Operations
