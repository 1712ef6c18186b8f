import PamOlive.Mfa.Replacement
import PamOlive.Operations.Progress

/-
  The tokens on which a verification raises.

  `str.isdigit` accepts the digits of every script, and `hmac.compare_digest` raises on all but
  ASCII.
-/

namespace PamOlive.Mfa

open Foundations Vault Sessions List
open Gateway (compareDigest)
open Operations (IsAscii compareDigest_eq_some_iff)

variable {site : Site} {library : MfaLibrary} {now : Int} {secret token : Text} {counter : Int}

/- The secret is base32 when it is normalized and padded. -/
def ValidSecret (library : MfaLibrary) (secret : Text) : Prop :=
  (library.totp.b32decode (normalizeTotpSecret library.totp secret ++
    totpPadding (normalizeTotpSecret library.totp secret))).isSome

/- The clock stands where all three counters fit into eight bytes. -/
def ValidClock (now : Int) : Prop :=
  1 ≤ now / (totpInterval * 1000000) ∧ now / (totpInterval * 1000000) + 1 < 2 ^ 64

theorem isAscii_padded (width number : Nat) : IsAscii (padded width number) := by
  induction width generalizing number with
  | zero => rfl
  | succ width ih =>
    have hDigit : (48 + number % 10) % 0x110000 < 128 := by omega
    unfold padded IsAscii
    rw [all_append, ih]
    simp [Fin.ofNat, hDigit]

section

variable (hSecret : ValidSecret library secret)

include hSecret

section

variable (hClock : ValidClock now)

include hClock

theorem exists_totpCode (hCounter : 0 ≤ counter ∧ counter < 2 ^ 64) : ∃ code, IsAscii code ∧
    totpCode library.totp now (some (counter * totpInterval * 1000000)) secret = some code := by
  rcases Option.isSome_iff_exists.mp hSecret with ⟨key, hKey⟩
  have hPacked : ∃ message, packCounter ((if counter * totpInterval * 1000000 = 0 then now
    else counter * totpInterval * 1000000) / (totpInterval * 1000000)) = some message := by
    unfold packCounter
    unfold ValidClock at hClock
    unfold totpInterval at hClock ⊢
    split
    all_goals
      rw [if_pos ⟨by omega, by omega⟩]
      exact ⟨_, rfl⟩
  rcases hPacked with ⟨message, hMessage⟩
  refine ⟨_, isAscii_padded totpDigits
    (truncated (codeWindow (library.totp.hmacSha1 key message)) % 10 ^ totpDigits), ?_⟩
  unfold totpCode
  simp only [hKey, hMessage, Option.bind_eq_bind, Option.bind_some]
  rfl

theorem codeMatches_returns_iff (hCounter : 0 ≤ counter ∧ counter < 2 ^ 64) :
    (∃ isMatch, codeMatches library now secret token counter = .ok isMatch) ↔ IsAscii token := by
  rcases exists_totpCode hSecret hClock hCounter with ⟨code, hCode, hTotp⟩
  unfold codeMatches
  simp [found_bind_eq_ok_iff, found_eq_ok_iff, hTotp, compareDigest_eq_some_iff, hCode]

theorem firstMatch_of_isAscii (hToken : IsAscii token) {counters : List Int}
    (hCounters : ∀ counter ∈ counters, 0 ≤ counter ∧ counter < 2 ^ 64) :
    ∃ found, firstMatch library now secret token counters = .ok found := by
  induction counters with
  | nil => exact ⟨none, rfl⟩
  | cons counter rest ih =>
    have hCounter := hCounters counter mem_cons_self
    rcases (codeMatches_returns_iff hSecret hClock hCounter).mpr hToken with ⟨isMatch, hMatch⟩
    unfold firstMatch
    rw [hMatch]
    cases isMatch with
    | true => exact ⟨some counter, rfl⟩
    | false => exact ih (fun other hOther => hCounters other (mem_cons_of_mem counter hOther))

theorem matchingTotpCounter_returns_iff :
    (∃ found, matchingTotpCounter library now secret token = .ok found) ↔
      (token = [] ∨ token.all library.isDigit = false) ∨ IsAscii token := by
  unfold matchingTotpCounter
  by_cases hScreened : token = [] ∨ token.all library.isDigit = false
  · rw [if_pos hScreened]
    exact ⟨fun _ => .inl hScreened, fun _ => ⟨none, rfl⟩⟩
  rw [if_neg hScreened]
  simp only [hScreened, false_or]
  unfold ValidClock at hClock
  constructor
  · rintro ⟨found, hFound⟩
    rcases bind_eq_ok_iff.mp hFound with ⟨isMatch, hMatch, _⟩
    exact (codeMatches_returns_iff hSecret hClock (by omega)).mp ⟨isMatch, hMatch⟩
  · intro hToken
    refine firstMatch_of_isAscii hSecret hClock hToken fun counter hCounter => ?_
    simp only [mem_cons, not_mem_nil, or_false] at hCounter
    omega

end

end

theorem firstByKey_eq_none_iff {devices : List MFADevice} :
    firstByKey devices = none ↔ devices = [] := by
  cases devices with
  | nil => exact ⟨fun _ => rfl, fun _ => rfl⟩
  | cons device rest =>
    unfold firstByKey
    split
    · simp
    · split <;> simp

variable {user : UserId} {db : Database}

/- A device of the user is there, and the token is of digits that are not all ASCII. -/
def RaisesOn (library : MfaLibrary) (user : UserId) (token : Text) (db : Database) : Prop :=
  (∃ device ∈ db.mfaDevices, isTotp user true device = true) ∧ token ≠ [] ∧
    token.all library.isDigit = true ∧ ¬ IsAscii token

/- The secrets of the user's devices can be decrypted, and are base32. -/
def SecretsReadable (site : Site) (library : MfaLibrary) (user : UserId) (db : Database) : Prop :=
  ∀ device ∈ db.mfaDevices, isTotp user true device = true →
    ∃ secret, deviceSecret site device = .ok secret ∧ ValidSecret library secret

theorem acceptedTotp_returns_iff (hSecrets : SecretsReadable site library user db)
    (hClock : ValidClock now) :
    (∃ accepted, acceptedTotp site library now user token db = .ok accepted) ↔
      ¬ RaisesOn library user token db := by
  unfold acceptedTotp RaisesOn
  cases hFirst : firstByKey (db.mfaDevices.filter (isTotp user true)) with
  | none =>
    have hNone := filter_eq_nil_iff.mp (firstByKey_eq_none_iff.mp hFirst)
    refine ⟨fun _ hRaises => ?_, fun _ => ⟨none, rfl⟩⟩
    rcases hRaises.1 with ⟨device, hMem, hTotp⟩
    exact hNone device hMem hTotp
  | some device =>
    have hMem := mem_filter.mp (mem_of_firstByKey hFirst)
    rcases hSecrets device hMem.1 hMem.2 with ⟨secret, hSecret, hValid⟩
    have hExists : ∃ device ∈ db.mfaDevices, isTotp user true device = true := ⟨device, hMem⟩
    have hCounter := @matchingTotpCounter_returns_iff library now secret token hValid hClock
    simp only [bind_eq_ok_iff, hSecret, hExists, true_and, Except.ok.injEq]
    constructor
    · rintro ⟨_, _, rfl, found, hFound, _⟩ ⟨hNonempty, hDigits, hNot⟩
      rcases hCounter.mp ⟨found, hFound⟩ with (hEmpty | hOther) | hAscii
      · exact hNonempty hEmpty
      · exact nomatch hDigits.symm.trans hOther
      · exact hNot hAscii
    · intro hNot
      have hScreen : (token = [] ∨ token.all library.isDigit = false) ∨ IsAscii token := by
        by_contra hRaises
        simp only [not_or, Bool.not_eq_false] at hRaises
        exact hNot ⟨hRaises.1.1, hRaises.1.2, hRaises.2⟩
      rcases hCounter.mpr hScreen with ⟨found, hFound⟩
      exact ⟨_, secret, rfl, found, hFound, rfl⟩

/- Only a token of digits outside ASCII, for a user with a device, makes a verification raise. -/
theorem verify_user_mfa_returns_iff (hSecrets : SecretsReadable site library user db)
    (hClock : ValidClock now) :
    (∃ verified, (verifyUserMfa site library now user token db).1 = .ok verified) ↔
      ¬ RaisesOn library user token db := by
  rw [← acceptedTotp_returns_iff hSecrets hClock]
  unfold verifyUserMfa verifyUserTotp consumeRecoveryCode
  cases hTotp : acceptedTotp site library now user token db with
  | error failure => simp [andThen, commit, hTotp, bind, Except.bind]
  | ok accepted =>
    refine ⟨fun _ => ⟨accepted, rfl⟩, fun _ => ?_⟩
    rcases accepted with _ | ⟨device, counter⟩
    · cases hCode : matchingRecoveryCode library user token db <;>
        simp [andThen, commit, hTotp, hCode, bind, Except.bind, pure, Except.pure]
    · simp [andThen, commit, reading, hTotp, bind, Except.bind, pure, Except.pure]

/- `str.isdigit` on the ASCII and the Arabic-Indic digits. -/
def digitLibrary : MfaLibrary :=
  { sampleMfaLibrary with
    isDigit := fun point =>
      decide (48 ≤ point.val ∧ point.val ≤ 57 ∨ 0x660 ≤ point.val ∧ point.val ≤ 0x669) }

theorem secretsReadable_mfaStart :
    SecretsReadable sampleSite digitLibrary sampleUser mfaStart.db := by
  intro device hDevice _
  simp only [mfaStart, mem_cons, not_mem_nil, or_false] at hDevice
  rcases hDevice with rfl | rfl <;> exact ⟨_, rfl, rfl⟩

theorem verify_user_mfa_returns_sample : ValidClock 60000000 ∧
    ∃ verified, (verifyUserMfa sampleSite digitLibrary 60000000 sampleUser "123456"
      mfaStart.db).1 = .ok verified := by
  have hClock : ValidClock 60000000 := ⟨by decide, by decide⟩
  refine ⟨hClock, (verify_user_mfa_returns_iff secretsReadable_mfaStart hClock).mpr ?_⟩
  rintro ⟨_, _, _, hNot⟩
  exact hNot rfl

/- Six Arabic-Indic digits end in a `TypeError`. -/
theorem arabic_digits_raise : (verifyUserMfa sampleSite digitLibrary 60000000 sampleUser
    (replicate 6 0x661) mfaStart.db).1 = .error .typeError := by
  decide +kernel

end PamOlive.Mfa
