import Frick.Client.Session
import Frick.Framework.Run
import Frick.Properties.RecordRoundTrip
import Frick.Server.Gateway

/-!
# Presence, end to end

Presence is set and cleared, the gateway fans every change out to the subscribers of its name and
key, and a client that holds a signal for them should have the last value, or none after a clear.

The signals of a client are kept under `name:key`. A record finds its signal that way, but the keys
of a clear are looked up as they are: a clear never reaches its own signal, and it reaches another
one whose `name:key` happens to be the cleared key. And a set may not arrive: a `nil` and a value
that does not pack are not sent.
-/

namespace Frick.Properties

open Framework Client Protocol Server Client.ClientRuntime List Option
open GatewayHub (presenceFrames)

/-- A `PresenceSet`, or a `PresenceClear` if there is no value. -/
structure PresenceOp where
  name : String
  key : String
  value : Option Value

/-- The gateway, a client behind one of its connections, and what has been set and cleared. -/
structure PresenceWorld where
  hub : GatewayHub
  client : ClientRuntime
  ops : List PresenceOp := []

def outboundOf (hub : GatewayHub) (id : Nat) : List Outbound :=
  ((hub.connections.find? id).map Connection.outbound).getD []

/-- The frames that were enqueued between two states of the hub. -/
def framesBetween (before after : GatewayHub) (id : Nat) : List FrickFrame :=
  ((outboundOf after id).drop (outboundOf before id).length).filterMap fun
    | .frame frame => some frame
    | _ => none

section

variable (config : GatewayConfig) (tenantId appId : String) (id : Nat)

/-- One operation: it is fanned out, and the client receives what it is sent. -/
def PresenceWorld.step (w : PresenceWorld) (op : PresenceOp) : PresenceWorld :=
  let hub := w.hub.fanOutPresence config tenantId appId op.name op.key op.value op.value.isNone
  { hub
    client := (framesBetween w.hub hub id).foldl ClientRuntime.receive w.client
    ops := w.ops ++ [op] }

end

/-- The last value that was set, if no clear followed. -/
def lastValue (ops : List PresenceOp) (pair : String × String) : Option Value :=
  (Dict.lastEdit (ops.map fun op => ((op.name, op.key), op.value)) pair).join

/-- Every signal shows the last value. -/
def Reproduced (pairs : List (String × String)) (w : PresenceWorld) : Prop :=
  ∀ pair ∈ pairs,
    w.client.presenceSignals.get? (streamKey pair.1 pair.2) = some (lastValue w.ops pair)

/-- The value is a map of fields that the presence declares. -/
def Fits (schema : FrickSchema) (name : String) (value : Value) : Prop :=
  ∃ presence ∈ schema.presences, presence.name = name ∧
    ∃ entries, value = .map entries ∧ NamesFields presence.fields entries

/-- A set of a pair that the client holds has a value that fits. A clear comes before any set of its
pair, and its key is not the `name:key` of a pair that was set. -/
def InForm (schema : FrickSchema) (pairs : List (String × String)) (w : PresenceWorld)
    (op : PresenceOp) : Prop :=
  (op.name, op.key) ∈ pairs → match op.value with
    | some value => Fits schema op.name value
    | none => ∀ earlier ∈ w.ops, earlier.value.isSome = true →
      (earlier.name, earlier.key) ≠ (op.name, op.key) ∧
        streamKey earlier.name earlier.key ≠ op.key

/-- The client holds the signals of the pairs, and its connection is subscribed to them. -/
structure Holding (tenantId appId : String) (id : Nat) (pairs : List (String × String))
    (w : PresenceWorld) : Prop where
  connected : ∃ c, w.hub.connections.find? id = some c ∧ c.inPartition tenantId appId = true ∧
    (c.subscriptions.filter fun sub => sub.kind = .presence).map (fun sub => (sub.name, sub.key)) =
      pairs.map fun pair => (pair.1, some pair.2)
  signals : ∀ key, (w.client.presenceSignals.get? key).isSome = true ↔
    key ∈ pairs.map fun pair => streamKey pair.1 pair.2

/-! ## What the client receives -/

/-- The records that are fanned out for an operation. -/
def recordsOf (schema : FrickSchema) (op : PresenceOp) : List PackedKeyedRecord :=
  ((op.value.toList.map fun value => (op.key, value)).filter
    fun record => record.2 ≠ .nil).filterMap
      fun record => (packPresenceRecord schema op.name record.1 record.2).toOption

/-- The keys that are fanned out as cleared. -/
def clearedOf (op : PresenceOp) : List String := if op.value.isNone then [op.key] else []

variable {pairs : List (String × String)}

section

variable {c : Connection} (hnodup : pairs.Nodup)
  (h : (c.subscriptions.filter fun sub => sub.kind = .presence).map
    (fun sub => (sub.name, sub.key)) = pairs.map fun pair => (pair.1, some pair.2))
  (name key : String)
include hnodup h

lemma countP_subscriptions :
    (c.subscriptions.filter fun sub =>
        sub.kind = .presence && sub.name = name && sub.key = some key).length =
      if (name, key) ∈ pairs then 1 else 0 := by
  calc _ = ((c.subscriptions.filter fun sub => sub.kind = .presence).map
          fun sub => (sub.name, sub.key)).count (name, some key) := by
        rw [← countP_eq_length_filter, List.count, countP_map, countP_filter]
        exact countP_congr fun sub _ => by simp [and_assoc, and_comm, and_left_comm]
    _ = pairs.count (name, key) := by
        rw [h, List.count, countP_map]
        exact countP_congr fun pair _ => by simp [Prod.ext_iff]
    _ = _ := hnodup.count

lemma presenceFrames_eq (recs : List PackedKeyedRecord) (cleared : List String) :
    if (name, key) ∈ pairs then
      ∃ subId, presenceFrames name key recs cleared c =
        [.frame (.presenceDelta ⟨subId, recs, cleared⟩)]
    else presenceFrames name key recs cleared c = [] := by
  have hlen := countP_subscriptions hnodup h name key
  split_ifs at hlen ⊢
  · obtain ⟨sub, hsub⟩ := length_eq_one_iff.mp hlen
    exact ⟨sub.subscriptionId, by rw [presenceFrames, hsub]; rfl⟩
  · rw [presenceFrames, length_eq_zero_iff.mp hlen]
    rfl

end

/-- The signal that an operation reaches. -/
def reached (op : PresenceOp) : String :=
  if op.value.isSome then streamKey op.name op.key else op.key

lemma presenceSignals_receive {schema : FrickSchema} (hdist : schema.Distinct)
    {client : ClientRuntime} (hschema : client.stores.schema = schema) {op : PresenceOp}
    (hfits : ∀ value, op.value = some value → Fits schema op.name value) (subId : String) :
    (client.receive (.presenceDelta ⟨subId, recordsOf schema op, clearedOf op⟩)).presenceSignals =
      setSignal client.presenceSignals (reached op) op.value := by
  obtain ⟨name, key, _ | value⟩ := op
  · rfl
  obtain ⟨presence, hmem, rfl, entries, rfl, hnames⟩ := hfits value rfl
  have hkeyed : (packPresenceRecord schema presence.name key (.map entries) >>=
      unpackPresenceRecord schema) = .ok ⟨presence.name, key, .map entries⟩ :=
    hnames.keyed hmem hdist.presences (hdist.presenceFields presence hmem)
  obtain ⟨packed, hpack, hunpack⟩ := bind_eq_ok.mp hkeyed
  have hrecords : recordsOf schema ⟨presence.name, key, some (.map entries)⟩ = [packed] := by
    simp [recordsOf, hpack, Except.toOption]
  rw [hrecords]
  simp only [receive, presenceDelta, storePresence, hschema, hunpack]
  rfl

section Step

variable {config : GatewayConfig} {tenantId appId : String} {id : Nat}
  {pairs : List (String × String)} {w : PresenceWorld}

lemma find?_fanOutPresence {hub : GatewayHub} {c : Connection}
    (hfind : hub.connections.find? id = some c) (hin : c.inPartition tenantId appId)
    (op : PresenceOp) :
    (hub.fanOutPresence config tenantId appId op.name op.key op.value
        op.value.isNone).connections.find? id =
      some { c with
        outbound := c.outbound ++ presenceFrames op.name op.key
          (recordsOf config.schema op) (clearedOf op) c } := by
  unfold GatewayHub.fanOutPresence GatewayHub.fanOutPresenceDelta
  rw [Table.find?_updateWhere, hfind, map_some, if_pos hin]
  rfl

section

variable (h : Holding tenantId appId id pairs w) (hnodup : pairs.Nodup) (op : PresenceOp)
include h hnodup op

lemma client_step :
    if (op.name, op.key) ∈ pairs then
      ∃ subId, (w.step config tenantId appId id op).client =
        w.client.receive (.presenceDelta ⟨subId, recordsOf config.schema op, clearedOf op⟩)
    else (w.step config tenantId appId id op).client = w.client := by
  obtain ⟨c, hfind, hin, hsubs⟩ := h.connected
  have hframes : framesBetween w.hub (w.hub.fanOutPresence config tenantId appId op.name op.key
      op.value op.value.isNone) id =
      (presenceFrames op.name op.key (recordsOf config.schema op) (clearedOf op)
        c).filterMap fun
          | .frame frame => some frame
          | _ => none := by
    rw [framesBetween, outboundOf, outboundOf, find?_fanOutPresence hfind hin op, hfind]
    simp
  have hsent := presenceFrames_eq hnodup hsubs op.name op.key (recordsOf config.schema op)
    (clearedOf op)
  simp only [PresenceWorld.step, hframes]
  split_ifs at hsent ⊢
  · obtain ⟨subId, heq⟩ := hsent
    rw [heq]
    exact ⟨subId, rfl⟩
  · rw [hsent]
    rfl

end

lemma lastValue_concat (ops : List PresenceOp) (op : PresenceOp) (pair : String × String) :
    lastValue (ops ++ [op]) pair =
      if (op.name, op.key) = pair then op.value else lastValue ops pair := by
  rw [lastValue, map_append, map_singleton, Dict.lastEdit_concat]
  split_ifs <;> rfl

lemma lastValue_eq_none {ops : List PresenceOp} {pair : String × String}
    (h : ∀ op ∈ ops, (op.name, op.key) = pair → op.value = none) : lastValue ops pair = none := by
  induction ops using List.reverseRecOn with
  | nil => rfl
  | append_singleton ops op ih =>
    rw [lastValue_concat]
    split_ifs with heq
    · exact h op (by simp) heq
    · exact ih fun op hop => h op (mem_append_left _ hop)

/-- The client holds the pairs, has the gateway's schema, and shows the last values. -/
structure Showing (config : GatewayConfig) (tenantId appId : String) (id : Nat)
    (pairs : List (String × String)) (w : PresenceWorld) : Prop
    extends Holding tenantId appId id pairs w where
  schema : w.client.stores.schema = config.schema
  reproduced : Reproduced pairs w

lemma Showing.signals_step (hdist : config.schema.Distinct) (hnodup : pairs.Nodup)
    (h : Showing config tenantId appId id pairs w) {op : PresenceOp}
    (hform : InForm config.schema pairs w op) :
    (w.step config tenantId appId id op).client.stores = w.client.stores ∧
    (w.step config tenantId appId id op).client.presenceSignals =
      if (op.name, op.key) ∈ pairs then setSignal w.client.presenceSignals (reached op) op.value
      else w.client.presenceSignals := by
  have hclient : if (op.name, op.key) ∈ pairs then
      ∃ subId, (w.step config tenantId appId id op).client = _ else _ :=
    client_step h.toHolding hnodup op
  split_ifs at hclient ⊢ with hheld
  · obtain ⟨subId, heq⟩ := hclient
    rw [heq]
    refine ⟨rfl, presenceSignals_receive hdist h.schema (fun value hvalue => ?_) subId⟩
    have hfits := hform hheld
    rwa [hvalue] at hfits
  · rw [hclient]
    exact ⟨rfl, rfl⟩

lemma InForm.lastValue_eq {schema : FrickSchema} {op : PresenceOp}
    (hform : InForm schema pairs w op) (hheld : (op.name, op.key) ∈ pairs)
    (hkeys : (pairs.map fun pair => streamKey pair.1 pair.2).Nodup) {pair : String × String}
    (hpair : pair ∈ pairs)
    (hreach : streamKey pair.1 pair.2 = reached op ↔ (op.name, op.key) ≠ pair) :
    lastValue w.ops pair = op.value := by
  have hform := hform hheld
  obtain ⟨name, key, _ | value⟩ := op
  · refine lastValue_eq_none fun earlier hearlier heq => ?_
    cases hvalue : earlier.value with
    | none => rfl
    | some =>
      obtain ⟨hother, hkey⟩ := hform earlier hearlier (by rw [hvalue]; rfl)
      subst heq
      exact absurd (hreach.mpr (Ne.symm hother)) hkey
  · have hsame : streamKey pair.1 pair.2 = streamKey name key ↔ (name, key) = pair :=
      ⟨fun heq => (inj_on_of_nodup_map hkeys hpair hheld heq).symm, fun heq => by rw [← heq]⟩
    exact absurd (hsame.symm.trans hreach) (by simp)

/-- **Step.** A set that fits reaches its signal and no other; a clear reaches no signal that shows
a value, and its own shows none. -/
lemma Showing.step (hdist : config.schema.Distinct)
    (hkeys : (pairs.map fun pair => streamKey pair.1 pair.2).Nodup)
    (h : Showing config tenantId appId id pairs w) {op : PresenceOp}
    (hform : InForm config.schema pairs w op) :
    Showing config tenantId appId id pairs (w.step config tenantId appId id op) := by
  obtain ⟨hstores, hsignals⟩ := h.signals_step hdist (Nodup.of_map _ hkeys) hform
  refine ⟨⟨?_, fun key => ?_⟩, by rw [hstores, h.schema], fun pair hpair => ?_⟩
  · obtain ⟨c, hfind, hin, hsubs⟩ := h.connected
    exact ⟨_, find?_fanOutPresence hfind hin op, hin, hsubs⟩
  · rw [hsignals, ← h.signals key]
    split_ifs
    · rw [isSome_get?_setSignal]
    · rfl
  have hshown := h.reproduced pair hpair
  rw [hsignals]
  show _ = some (lastValue (w.ops ++ [op]) pair)
  rw [lastValue_concat]
  split_ifs with hheld heq heq
  · by_cases hreach : streamKey pair.1 pair.2 = reached op
    · rw [← hreach, get?_setSignal_self _ (by rw [hshown]; rfl)]
    · rw [get?_setSignal_of_ne _ hreach, hshown]
      exact congrArg some (hform.lastValue_eq hheld hkeys hpair (by simp [hreach, heq]))
  · by_cases hreach : streamKey pair.1 pair.2 = reached op
    · rw [← hreach, get?_setSignal_self _ (by rw [hshown]; rfl)]
      exact congrArg some (hform.lastValue_eq hheld hkeys hpair (by simp [hreach, heq])).symm
    · rw [get?_setSignal_of_ne _ hreach, hshown]
  · exact absurd (heq ▸ hpair) hheld
  · exact hshown

end Step

/-- A client that holds signals, all of them undefined, before any operation. -/
structure StartsHolding (tenantId appId : String) (id : Nat) (pairs : List (String × String))
    (hub : GatewayHub) (client : ClientRuntime) : Prop where
  holding : Holding tenantId appId id pairs ⟨hub, client, []⟩
  undefined : ∀ pair ∈ pairs, client.presenceSignals.get? (streamKey pair.1 pair.2) = some none

/-- **Presence, end to end.** The signals of a client show the last values after any sequence of
operations whose values fit the declared fields and whose clears find nothing set. -/
theorem presence_reproduced (config : GatewayConfig) (toLowercase : String → String)
    (hvalid : validateSchema toLowercase config.schema = .ok ()) (tenantId appId : String)
    (id : Nat) (pairs : List (String × String))
    (hkeys : (pairs.map fun pair => streamKey pair.1 pair.2).Nodup) (hub : GatewayHub)
    (client : ClientRuntime) (hschema : client.stores.schema = config.schema)
    (hstart : StartsHolding tenantId appId id pairs hub client) (ops : List PresenceOp)
    (hguard : Guarded (PresenceWorld.step config tenantId appId id) (InForm config.schema pairs)
      ⟨hub, client, []⟩ ops) :
    Reproduced pairs
      (run (PresenceWorld.step config tenantId appId id) ⟨hub, client, []⟩ ops) :=
  (run_invariant (I := Showing config tenantId appId id pairs)
    (fun _ _ h hform => h.step (validateSchema_distinct hvalid) hkeys hform)
    ⟨hstart.holding, hschema, hstart.undefined⟩ hguard).reproduced

/-! ## In a room -/

def lobbySchema : FrickSchema where
  presences := [⟨1, "Room", [], [⟨1, "user", .string, true, none, none, none⟩], 1000⟩]

def lobbyHub : GatewayHub :=
  { GatewayHub.new with
    connections := ⟨[⟨1, some (member "ada"), some "token", "_default", true,
      [⟨"Room:r1", .presence, "Room", some "r1"⟩], [], .idle⟩], by decide⟩ }

def lobbyClient : ClientRuntime where
  stores := { schema := lobbySchema }
  replicaId := "replica"
  deviceId := "device"
  presenceSignals := ⟨[("Room:r1", none)], by decide⟩

def lobbyGateway : GatewayConfig := .ofSchema lobbySchema

def enters (user : String) : PresenceOp :=
  ⟨"Room", "r1", some (.map [(.string "user", .string user)])⟩

def leaves : PresenceOp := ⟨"Room", "r1", none⟩

/-- Two enter one after the other, and the client has the second; a leave before that is fine. -/
theorem entering_reproduced :
    Reproduced [("Room", "r1")] (run (PresenceWorld.step lobbyGateway "acme" "_default" 1)
      ⟨lobbyHub, lobbyClient, []⟩ [leaves, enters "ada", enters "grace"]) := by
  have hfits (user : String) (w : PresenceWorld) :
      InForm lobbySchema [("Room", "r1")] w (enters user) := fun _ =>
    ⟨_, mem_singleton.mpr rfl, rfl, _, rfl, by simp, by simp⟩
  refine presence_reproduced lobbyGateway id (by decide +kernel) "acme" "_default" 1
    [("Room", "r1")] (by decide) lobbyHub lobbyClient rfl
    ⟨⟨⟨_, rfl, by decide, by decide⟩, fun key => ?_⟩, by decide +kernel⟩
    [leaves, enters "ada", enters "grace"] ⟨fun _ => nofun, hfits _ _, hfits _ _, trivial⟩
  exact Dict.isSome_get?_iff

/-- Whoever leaves stays in the room. -/
theorem leaving_not_reproduced :
    let w := run (PresenceWorld.step lobbyGateway "acme" "_default" 1) ⟨lobbyHub, lobbyClient, []⟩
      [enters "ada", leaves]
    w.client.presenceSignals.get? "Room:r1" = some (enters "ada").value ∧
      ¬ Reproduced [("Room", "r1")] w := by
  refine ⟨by decide +kernel, fun h => ?_⟩
  have hleft := h ("Room", "r1") (by decide)
  revert hleft
  decide +kernel

end Frick.Properties
