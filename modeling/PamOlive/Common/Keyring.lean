import PamOlive.Foundations.Text

/-
  The keyring as its client sees it, and the hash function.

  Every operation is a request to a service and may fail. Results that depend on what it computes
  name what they use, such as `Keyring.Agrees`.
-/

---- Keyring Client

namespace PamOlive

open Foundations

inductive KeyringError where
  | operationFailed
deriving DecidableEq, Repr

structure Keyring where
  encrypt : Text → Except KeyringError Text
  decrypt : Text → Except KeyringError Text
  sign : Text → Except KeyringError Text
  verify : Text → Text → Except KeyringError Bool

namespace Keyring

/- A returned signature is not empty, and is accepted for its text. -/
def Agrees (keyring : Keyring) : Prop :=
  ∀ text signature,
    keyring.sign text = .ok signature → signature ≠ [] ∧ keyring.verify text signature = .ok true

end Keyring

/- What the web process calls outside its own code. -/
structure Services where
  sha256 : Text → Text
  keyring : Keyring

def plainServices : Services where
  sha256 text := text
  keyring :=
    { encrypt := fun text => .ok text
      decrypt := fun text => .ok text
      sign := fun text => .ok (115 :: text)
      verify := fun text signature =>
        .ok (decide (signature = 115 :: text)) }

theorem plainServices_agrees : plainServices.keyring.Agrees := by
  intro text signature hSign
  cases hSign
  constructor
  · simp
  · simp [plainServices]

end PamOlive
