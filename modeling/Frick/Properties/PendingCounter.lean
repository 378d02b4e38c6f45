import Frick.Client.Session
import Frick.Framework.Run

/-!
# The pending counter

`syncStatus.pendingMutations` of `packages/core/src/runtime.ts` is set by hand wherever one of the
two queues changes. `#trackPendingAppend` counts one of them only, so the counter is right exactly
as long as no append is made while an upsert waits.
-/

namespace Frick.Properties

open Framework Client ClientRuntime

/-- A client and the `pendingMutations` of its status. -/
structure CountingClient extends ClientRuntime where
  pendingMutations : Nat

namespace CountingClient

/-- The constructor with its `#hydrateFromCache`: the cached appends wait again. -/
def new (client : ClientRuntime) (cached : Dict String PendingAppend) : CountingClient :=
  { client with
    pendingAppends := cached
    pendingUpserts := Table.empty _
    pendingMutations := cached.rows.length }

/-- The writes that wait for their answer, in both queues. -/
def pendingWrites (client : ClientRuntime) : Nat :=
  client.pendingAppends.rows.length + client.pendingUpserts.rows.length

/-- What the handler of an event sets `pendingMutations` to, if it does. -/
def setStatus (client : ClientRuntime) (event : Event) : Option Nat :=
  let after := (client.handle event).1
  match event with
  | .clearUserState => some 0
  | .setSession session =>
    if sessionScope client.session ≠ sessionScope session then some 0 else none
  | .append _ =>
    if client.maxPendingAppends ≤ client.pendingAppends.rows.length then none
    -- `#trackPendingAppend` leaves the upserts out.
    else some after.pendingAppends.rows.length
  | .upsertObject _ =>
    if client.maxPendingAppends ≤
        client.pendingUpserts.rows.length + client.pendingAppends.rows.length then none
    else some (pendingWrites after)
  | .message _ (.ack ..) => some (pendingWrites after)
  | .message _ (.nack error) =>
    if error.requestId ∈ client.callCommandResolvers then none else some (pendingWrites after)
  | _ => none

/-- One event, with the counter as the status that it sets says, if it sets one. -/
def step (client : CountingClient) (event : Event) : CountingClient :=
  { (client.handle event).1 with
    pendingMutations := (setStatus client.toClientRuntime event).getD client.pendingMutations }

/-- The counter says how many writes wait. -/
def Counted (client : CountingClient) : Prop :=
  client.pendingMutations = pendingWrites client.toClientRuntime

/-- An append that is taken finds no upsert waiting. -/
def AppendsAlone (client : CountingClient) : Event → Prop
  | .append _ => client.pendingAppends.rows.length < client.maxPendingAppends →
      client.pendingUpserts.rows = []
  | _ => True

lemma counted_step {client : CountingClient} (h : client.Counted) {event : Event}
    (hne : ∀ append, event ≠ .append append) : (client.step event).Counted := by
  rw [Counted, step, h]
  cases event with
  | append append => exact absurd rfl (hne append)
  | connect =>
    simp only [handle, connect]
    split <;> rfl
  | disconnect | callCommand | stream | clearUserState => rfl
  | opened | objects | presence | signalChannel | projection | closed =>
    simp only [handle, onOpen, objects, presence, signalChannel, projection, onClose]
    split_ifs <;> rfl
  | setSession | upsertObject =>
    simp only [setStatus, handle, setSession, upsertObject]
    split_ifs <;> rfl
  | message _ frame =>
    cases frame with
    | nack =>
      simp only [setStatus, handle, receive, onNack]
      split_ifs <;> rfl
    | signalDeliver =>
      simp only [handle, receive, signalDeliver]
      split <;> rfl
    | _ => rfl

/-- **Step.** The counter stays right exactly if an append is alone. -/
lemma counted_step_iff {client : CountingClient} (h : client.Counted) (event : Event) :
    (client.step event).Counted ↔ client.AppendsAlone event := by
  cases event with
  | append =>
    rw [Counted, step, h]
    simp only [setStatus, handle, ClientRuntime.append, AppendsAlone]
    split_ifs with hfull
    · exact iff_of_true rfl fun hroom => absurd hroom (not_lt.mpr hfull)
    · simp [pendingWrites, not_le.mp hfull]
  | _ => exact iff_of_true (counted_step h (by simp)) trivial

/-- **The counter is right exactly where appends are alone.** -/
theorem pendingMutations_counted_iff (client : ClientRuntime) (cached : Dict String PendingAppend)
    (events : List Event) :
    (∀ before after, events = before ++ after → (run step (new client cached) before).Counted) ↔
      Guarded step AppendsAlone (new client cached) events :=
  forall_run_iff_guarded (J := fun _ => True) (I := Counted) (fun _ _ _ => trivial)
    (fun _ event _ h => counted_step_iff h event) trivial (by rfl) events

/-- **An append hides an upsert.** Two writes wait, and the counter says one. -/
theorem append_hides_upsert :
    let client := run step (new { stores := { schema := {} }, replicaId := "r", deviceId := "d" }
      (Table.empty _)) [.upsertObject ⟨"q1", "Note", "n1", .map [], none⟩,
        .append ⟨"q2", "Chat", "c1", "Said", .map []⟩]
    client.pendingMutations = 1 ∧ pendingWrites client.toClientRuntime = 2 :=
  ⟨rfl, rfl⟩

end CountingClient

end Frick.Properties
