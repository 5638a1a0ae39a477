import SeedMg24.Foundation.Text

/-!
# Lifecycle confirmations

`LifecycleConfirmationStore` of `services/lifecycle_confirmation.py`.  A token is known by its
number in the order in which tokens were issued.
-/

set_option autoImplicit false

namespace SeedMg24.Model

open Foundation

/-- SOURCE: lifecycle_confirmation.py:7-14 -/
structure PendingConfirmation where
  operation : Text
  recordId : ℕ
  deviceId : Text
  hardwareId : Option Text
  bleAddress : Option Text
  expiresAt : ℕ
deriving DecidableEq, Repr

/-- SOURCE: lifecycle_confirmation.py:17-21 -/
structure LifecycleConfirmationStore where
  ttlSeconds : ℕ := 120
  pending : List (ℕ × PendingConfirmation) := []
  /-- how many tokens were issued: the next one -/
  tokens : ℕ := 0
deriving DecidableEq, Repr

namespace LifecycleConfirmationStore

/-- SOURCE: lifecycle_confirmation.py:47-49 -/
def purge (s : LifecycleConfirmationStore) (now : ℕ) : LifecycleConfirmationStore :=
  { s with pending := s.pending.filter fun entry => now < entry.2.expiresAt }

/-- The clock is read twice, to purge and for the new token.
SOURCE: lifecycle_confirmation.py:23-30 -/
def issue (s : LifecycleConfirmationStore) (operation : Text) (recordId : ℕ) (deviceId : Text)
    (hardwareId bleAddress : Option Text) (purgedAt now : ℕ) : LifecycleConfirmationStore × ℕ :=
  let s := s.purge purgedAt
  let confirmation : PendingConfirmation :=
    ⟨operation, recordId, deviceId, hardwareId, bleAddress, now + s.ttlSeconds⟩
  ({ s with pending := s.pending ++ [(s.tokens, confirmation)], tokens := s.tokens + 1 }, s.tokens)

/-- What `consume` does under the lock.
SOURCE: lifecycle_confirmation.py:36-37 -/
def popPending (s : LifecycleConfirmationStore) (token : ℕ) :
    LifecycleConfirmationStore × Option PendingConfirmation :=
  ({ s with pending := s.pending.filter (·.1 ≠ token) },
    (s.pending.find? (·.1 = token)).map (·.2))

/-- What `consume` does behind it.
SOURCE: lifecycle_confirmation.py:38-45 -/
def checkPending (pending : Option PendingConfirmation) (operation : Text) (recordId : ℕ)
    (deviceId : Text) (hardwareId bleAddress : Option Text) (now : ℕ) : Except Text Unit :=
  match pending with
  | none => .error "confirmation token is missing, expired, or already used".toList
  | some pending =>
    if pending.expiresAt ≤ now then .error "confirmation token expired".toList
    else if (pending.operation, pending.recordId, pending.deviceId, pending.hardwareId,
        pending.bleAddress) ≠ (operation, recordId, deviceId, hardwareId, bleAddress) then
      .error "confirmation token does not match the requested operation and identity".toList
    else .ok ()

/-- SOURCE: lifecycle_confirmation.py:32-45 -/
def consume (s : LifecycleConfirmationStore) (token : ℕ) (operation : Text) (recordId : ℕ)
    (deviceId : Text) (hardwareId bleAddress : Option Text) (now : ℕ) :
    LifecycleConfirmationStore × Except Text Unit :=
  let (s, pending) := s.popPending token
  (s, checkPending pending operation recordId deviceId hardwareId bleAddress now)

-- a use for another operation spends the token
example :
    let (s, token) := ({} : LifecycleConfirmationStore).issue "remove".toList 1 [] none none 0 0
    let (s, _) := s.consume token "restore".toList 1 [] none none 5
    (s.consume token "remove".toList 1 [] none none 5).2 =
      .error "confirmation token is missing, expired, or already used".toList := by decide

end LifecycleConfirmationStore

end SeedMg24.Model
