import PamOlive.Common.Keyring
import PamOlive.Foundations.Outcome

/-
  The keyring as a service with a state of its own.

  An answer may depend on when it is asked: encryption is random, and the service can be out of
  reach. What a caller may still rely on is said by `Decrypts` and `Verifies`.
-/

---- Clients

namespace PamOlive

open Foundations

/- `KeyringClient`, with the state of the service. -/
structure KeyringClient (State : Type) where
  encrypt : Text → State → Except KeyringError Text × State
  decrypt : Text → State → Except KeyringError Text × State
  sign : Text → State → Except KeyringError Text × State
  verify : Text → Text → State → Except KeyringError Bool × State

namespace KeyringClient

variable {State : Type}

def ofKeyring (keyring : Keyring) : KeyringClient State where
  encrypt text := reading (fun _ => keyring.encrypt text)
  decrypt text := reading (fun _ => keyring.decrypt text)
  sign text := reading (fun _ => keyring.sign text)
  verify text signature := reading (fun _ => keyring.verify text signature)

/- A ciphertext has the plaintext, whenever it is read. -/
def Decrypts (client : KeyringClient State) (ciphertext plaintext : Text) : Prop :=
  ∀ state, (client.decrypt ciphertext state).1 = .ok plaintext

/- A signature is accepted, whenever it is checked. -/
def Verifies (client : KeyringClient State) (text signature : Text) : Prop :=
  ∀ state, (client.verify text signature state).1 = .ok true

end KeyringClient

end PamOlive
