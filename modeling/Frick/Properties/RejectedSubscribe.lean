import Frick.Properties.LiveSubscriptions

/-!
# A rejected `Subscribe`

`handle_subscribe` registers the subscription before it re-validates the session, in the place of an
entry with the same id, and takes the entry out again when it refuses the frame later on. Nothing is
left behind; but if the id was that of a live subscription, that one is gone too, while the refusals
before the registration leave it alone.
-/

namespace Frick.Properties

open Protocol Server GatewayHub

variable (config : GatewayConfig) (hub : GatewayHub) (connection : Connection)
  (payload : SubscribePayload)

/-- The connection has been sent a `Nack`. -/
def Nacked (after : GatewayHub) : Prop :=
  ∃ c ∈ after.connections.find? connection.id, ∃ nack,
    Outbound.frame (.nack nack) ∈ c.outbound.drop connection.outbound.length

/-- The frame is refused before it is registered, for its projection or for the principal. -/
def RefusedAtOnce : Prop :=
  (payload.kind = .projection ∧ ¬config.knowsProjection connection.appId payload.name) ∨
    ∃ principal ∈ connection.principal, subscribeBaseline principal payload.kind ≠ .allow

def otherEntries (entries : List SubKey) : List SubKey :=
  entries.filter fun existing => existing.subscriptionId ≠ payload.subscriptionId

variable {config hub connection payload} {id : Nat} {c : Connection}

/-- The connection `c` after something that took the entry away or sent nothing. -/
def DroppedOrQuiet (payload : SubscribePayload) (c : Connection) (id : Nat) (after : GatewayHub) :
    Prop :=
  ∃ c', after.connections.find? id = some c' ∧
    (c'.subscriptions = otherEntries payload c.subscriptions ∨ c'.outbound = c.outbound)

lemma droppedOrQuiet_resumeSubscribe (h : hub.connections.find? id = some c) (p : Principal) :
    DroppedOrQuiet payload c id (hub.resumeSubscribe config id payload p) := by
  have hquiet (task : FrameTask) : DroppedOrQuiet payload c id (hub.setTask id task) :=
    ⟨_, find?_modify_self h, .inr rfl⟩
  have hdrop (frame : FrickFrame) : DroppedOrQuiet payload c id
      (((hub.removeSubscription id payload.subscriptionId).sendFrame id frame).setTask id .idle) :=
    ⟨_, find?_modify_self (find?_modify_self (find?_modify_self h)), .inl rfl⟩
  unfold resumeSubscribe
  dsimp only
  split
  · exact hdrop _
  split
  iterate 4 exact hquiet _
  split_ifs
  · exact hquiet _
  · exact hdrop _

lemma droppedOrQuiet_resumeFrame (h : hub.connections.find? connection.id = some c)
    (p : Principal) (active : Option (Except ServerError Principal)) :
    DroppedOrQuiet payload c connection.id
      (hub.resumeFrame config connection (.subscribe payload) p active) := by
  have hshut (frame : FrickFrame) (reason : String) : DroppedOrQuiet payload c connection.id
      ((((hub.sendFrame connection.id frame).sendClose connection.id policyViolation
        reason).removeSubscription connection.id payload.subscriptionId).setTask
          connection.id .idle) :=
    ⟨_, find?_modify_self (find?_modify_self (find?_modify_self (find?_modify_self h))), .inl rfl⟩
  unfold resumeFrame activePrincipalForFrame
  rcases active with _ | err | current
  · by_cases hcheap : p.isActiveCheap
    · simp only [hcheap]
      exact droppedOrQuiet_resumeSubscribe h p
    · simp only [hcheap]
      exact hshut _ _
  · exact hshut _ _
  by_cases hsame : samePrincipal p current
  · simp only [hsame]
    exact droppedOrQuiet_resumeSubscribe (find?_modify_self h) current
  · simp only [hsame]
    exact hshut _ _

variable {session : Except ServerError Principal}
  (h : hub.connections.find? connection.id = some connection)

section

include h

lemma subscriptionsOf_of_nack (htask : connection.task = .idle) {frame : FrickFrame}
    (hnack : hub.beginSubscribe config connection payload = hub.sendFrame connection.id frame) :
    subscriptionsOf (hub.handleSubscribe config connection payload session) connection.id =
      connection.subscriptions := by
  have hfind : (hub.sendFrame connection.id frame).connections.find? connection.id = _ :=
    find?_modify_self h
  have hsent : hub.handleSubscribe config connection payload session =
      hub.sendFrame connection.id frame := by
    unfold handleSubscribe
    rw [hnack]
    split
    · simp [hfind, Connection.enqueue, htask]
    · rfl
  rw [hsent, subscriptionsOf, hfind]
  rfl

lemma droppedOrQuiet_of_registered (hreg : hub.beginSubscribe config connection payload =
      (hub.addSubscription connection.id (entryOf payload)).beginFrame config connection
        (.subscribe payload)) :
    DroppedOrQuiet payload connection connection.id
      (hub.handleSubscribe config connection payload session) := by
  have hfind : (hub.addSubscription connection.id (entryOf payload)).connections.find?
      connection.id = _ := find?_modify_self h
  -- The entry that was there before has been replaced, so both lists are the same under other ids.
  have hthen {after : GatewayHub} (hafter : DroppedOrQuiet payload
      { connection with subscriptions := registerEntry connection.subscriptions payload }
        connection.id after) : DroppedOrQuiet payload connection connection.id after := by
    obtain ⟨c, hc, hdrop | hquiet⟩ := hafter
    · exact ⟨c, hc, .inl (hdrop.trans (by simp [otherEntries, registerEntry, entryOf]))⟩
    · exact ⟨c, hc, .inr hquiet⟩
  apply hthen
  unfold handleSubscribe
  rw [hreg, beginFrame]
  cases hprin : connection.principal with
  | none => exact ⟨_, find?_modify_self (find?_modify_self hfind), .inl rfl⟩
  | some p =>
    cases htoken : connection.sessionToken with
    | none => exact droppedOrQuiet_resumeFrame hfind p none
    | some _ =>
      have hwaits : (((hub.addSubscription connection.id (entryOf payload)).setTask connection.id
          (.revalidate (.subscribe payload))).connections.find? connection.id) = _ :=
        find?_modify_self hfind
      simp only [hwaits, Option.any_some]
      exact droppedOrQuiet_resumeFrame hwaits p (some session)

end

lemma beginSubscribe_cases :
    (∃ frame, hub.beginSubscribe config connection payload = hub.sendFrame connection.id frame) ∧
        (RefusedAtOnce config connection payload ∨
          ∀ sub ∈ connection.subscriptions, sub.subscriptionId ≠ payload.subscriptionId) ∨
      hub.beginSubscribe config connection payload =
        (hub.addSubscription connection.id (entryOf payload)).beginFrame config connection
          (.subscribe payload) ∧ ¬RefusedAtOnce config connection payload := by
  unfold beginSubscribe
  dsimp only
  split_ifs with hlimit hproj
  · exact .inl ⟨⟨_, rfl⟩, .inr (by simpa using hlimit.1)⟩
  · exact .inl ⟨⟨_, rfl⟩, .inl (.inl hproj)⟩
  cases hprin : connection.principal with
  | none => exact .inr ⟨rfl, not_or.mpr ⟨hproj, by simp [hprin]⟩⟩
  | some p =>
    rw [Option.map_some]
    cases hbaseline : subscribeBaseline p payload.kind with
    | allow => exact .inr ⟨rfl, not_or.mpr ⟨hproj, by simp [hprin, hbaseline]⟩⟩
    | deny _ _ => exact .inl ⟨⟨_, rfl⟩, .inl (.inr ⟨p, hprin, by simp [hbaseline]⟩)⟩

/-- **What a rejected frame changes.** The subscriptions of a connection are the same after a
`Subscribe` that ends in a `Nack` as before it exactly if the frame was refused at once, or there
was no subscription under its id. -/
theorem rejected_subscribe_changes_nothing_iff (config : GatewayConfig) (hub : GatewayHub)
    (connection : Connection) (payload : SubscribePayload) (session : Except ServerError Principal)
    (h : hub.connections.find? connection.id = some connection) (htask : connection.task = .idle)
    (hnacked : Nacked connection (hub.handleSubscribe config connection payload session)) :
    subscriptionsOf (hub.handleSubscribe config connection payload session) connection.id =
        connection.subscriptions ↔
      RefusedAtOnce config connection payload ∨
        ∀ sub ∈ connection.subscriptions, sub.subscriptionId ≠ payload.subscriptionId := by
  rcases @beginSubscribe_cases config hub connection payload with
    ⟨⟨frame, hframe⟩, hcondition⟩ | ⟨hregistered, hnot⟩
  · exact iff_of_true (subscriptionsOf_of_nack h htask hframe) hcondition
  obtain ⟨c, hc, hdropped | hquiet⟩ := droppedOrQuiet_of_registered h hregistered
  · rw [subscriptionsOf, hc, Option.map_some, Option.getD_some, hdropped, or_iff_right hnot,
      otherEntries]
    simp
  · obtain ⟨c', hc', nack, hnack⟩ := hnacked
    obtain rfl := Option.some.inj (hc.symm.trans hc')
    simp [hquiet] at hnack

/-! ## A stream without a key -/

/-- Ada's connection with a live subscription to a presence, and its hub. -/
def watching : Connection :=
  { roomConnection with subscriptions := [⟨"s", .presence, "Cursor", some "r1"⟩] }

def watchingHub : GatewayHub := { GatewayHub.new with connections := ⟨[watching], by decide⟩ }

def keyless (subscriptionId : String) : GatewayHub :=
  watchingHub.handleSubscribe (.ofSchema roomSchema) watching
    ⟨subscriptionId, .stream, "Room", none, none⟩ (.ok (member "ada"))

/-- Under an id of its own it is refused and leaves the other subscription alone. -/
theorem keyless_stream_changes_nothing :
    subscriptionsOf (keyless "t") 1 = watching.subscriptions :=
  (rejected_subscribe_changes_nothing_iff (.ofSchema roomSchema) watchingHub watching
    ⟨"t", .stream, "Room", none, none⟩ (.ok (member "ada")) (by decide +kernel) rfl
    ⟨_, rfl, _, .head _⟩).mpr (.inr (by decide))

/-- **The live subscription goes.** Under the id of the live one it is refused, and takes that one
away. -/
theorem keyless_stream_ends_live_subscription :
    Nacked watching (keyless "s") ∧ subscriptionsOf (keyless "s") 1 = [] :=
  ⟨⟨_, rfl, _, .head _⟩, by decide +kernel⟩

end Frick.Properties
