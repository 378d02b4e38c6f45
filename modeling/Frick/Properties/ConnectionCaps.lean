import Frick.Framework.Watch
import Frick.Properties.HubTasks

/-!
# The caps on connections

Any number of connections come, say `Hello` and go, and their tasks interleave at the lock sections
of the hub. `run_connection` looks at the number of connections in one section and at the count of
the principal in a second, and registers in a third, so that two sockets may both pass the checks
before either is counted. `reserve_hello_principal` checks and counts in one. The caps hold where no
other task registers, or books a slot of the same principal, between the checks of a task and its
registration: what the checks found is then still so.

A slot is only booked for a connection that was seen to have no principal, or this one, and only the
principal of a booked slot is attached. The invariant gives every connection the slot that it holds,
so that slots are at most what `per_principal` counts.
-/

namespace Frick.Properties

open Function Framework Framework.Workers Server Table TaskStage Option
open Principal (connectionKey)

variable {ι : Type}

/-- The task counts the connections next. -/
def countsConnections (w : HubWorld ι) (i : ι) : Bool :=
  match w.pending i with
  | some .connectionCount => true
  | _ => false

def registers (w : HubWorld ι) (i : ι) : Bool :=
  match w.pending i with
  | some (.register _ _) => true
  | _ => false

/-- A slot is booked for the principal that a task is about to register. -/
def booksSlotOf (w : HubWorld ι) (i j : ι) : Bool :=
  match w.pending i, w.pending j with
  | some (.reserveHelloPrincipal _ p), some (.register (some q) _) =>
    q.connectionKey = p.connectionKey
  | _, _ => false

/-- The checks of a task are out of date once another task has registered, or booked a slot of its
principal. -/
def admissionWatch : Watch (HubWorld ι) ι where
  looks := countsConnections
  spoils w i j := registers w i || booksSlotOf w i j

def HasRoom (config : GatewayConfig) (hub : GatewayHub) (principal : Option Principal) : Prop :=
  hub.connections.rows.length < config.maxWebSocketConnections ∧
    ∀ p ∈ principal, (hub.perPrincipal p.connectionKey : Int) < config.maxConnectionsPerPrincipal

/-! ## Slots -/

/-- The hub is within its caps, with `slot` the key of the slot that each connection holds. -/
structure SlotsWithin (config : GatewayConfig) (slot : Nat → Option String) (hub : GatewayHub) :
    Prop where
  ids : IdsBelow hub
  count : hub.connections.rows.length ≤ config.maxWebSocketConnections
  slots : ∀ key, hub.connections.tally (fun c => slot c.id) key ≤ hub.perPrincipal key
  cap : ∀ key, hub.perPrincipal key ≤ config.maxConnectionsPerPrincipal.toNat
  holds : ∀ c ∈ hub.connections, ∀ p, c.principal = some p → slot c.id = some p.connectionKey

namespace SlotsWithin

open GatewayHub

variable {config : GatewayConfig} {slot : Nat → Option String} {hub : GatewayHub} {id : Nat}

lemma new : SlotsWithin config (fun _ => none) .new where
  ids := idsBelow_new
  count := Nat.zero_le _
  slots _ := (tally_of_rows_eq_nil rfl).le
  cap _ := Nat.zero_le _
  holds c hc := absurd hc (not_mem_empty c)

lemma tally_le (h : SlotsWithin config slot hub) (key : String) :
    hub.connections.tally (countsFor connectionKey) key ≤
      config.maxConnectionsPerPrincipal.toNat := by
  refine (tally_mono fun c hc hkey => ?_).trans ((h.slots key).trans (h.cap key))
  obtain ⟨p, hp, rfl⟩ := map_eq_some_iff.mp hkey
  exact h.holds c hc p hp

lemma takePrincipalSlot_le {key : String} (h : ∀ k, hub.perPrincipal k ≤
    config.maxConnectionsPerPrincipal.toNat)
    (hroom : (hub.perPrincipal key : Int) < config.maxConnectionsPerPrincipal) (k : String) :
    takePrincipalSlot hub.perPrincipal key k ≤ config.maxConnectionsPerPrincipal.toNat := by
  rw [takePrincipalSlot_apply]
  have hk := h k
  split_ifs with heq
  · rw [heq] at hroom
    omega
  · omega

section

variable (h : SlotsWithin config slot hub)
include h

lemma register {principal : Option Principal}
    (hroom : HasRoom config hub principal) (bearer : Option String) :
    SlotsWithin config (update slot hub.nextId (principal.map connectionKey))
      (hub.register principal bearer) := by
  have hnew : ∀ c ∈ hub.connections, c.id ≠ hub.nextId := fun c hc => (h.ids c hc).ne
  have hold : ∀ c ∈ hub.connections,
      update slot hub.nextId (principal.map connectionKey) c.id = slot c.id :=
    fun c hc => update_of_ne (hnew c hc) _ _
  refine ⟨idsBelow_register h.ids principal bearer, ?_, fun key => ?_, fun key => ?_, ?_⟩
  · show (hub.connections.upsert _).rows.length ≤ _
    rw [rows_upsert_of_fresh hnew, List.length_append]
    exact hroom.1
  · show (hub.connections.upsert _).tally _ key ≤ _
    rw [tally_upsert_of_fresh hnew, tally_congr hold]
    have hslots := h.slots key
    cases principal with
    | none =>
      rwa [has_of_none (by exact update_self ..)]
    | some p =>
      rw [has_of_some (by exact update_self ..)]
      show _ ≤ takePrincipalSlot hub.perPrincipal p.connectionKey key
      rw [takePrincipalSlot_apply]
      omega
  · cases principal with
    | none => exact h.cap key
    | some p => exact takePrincipalSlot_le h.cap (hroom.2 p rfl) key
  intro c hc p hp
  rcases mem_upsert.mp hc with rfl | ⟨hc, -⟩
  · show update slot hub.nextId _ hub.nextId = _
    rw [update_self, show principal = some p from hp, map_some]
  · rw [hold c hc]
    exact h.holds c hc p hp

lemma modify {f : Connection → Connection} (hf : ∀ c, (f c).id = c.id)
    (hprin : ∀ c p, (f c).principal = some p →
      c.principal = some p ∨ slot id = some p.connectionKey) :
    SlotsWithin config slot (hub.modify id f hf) where
  ids := idsBelow_modify h.ids id f hf
  count := by
    show (hub.connections.rows.map _).length ≤ _
    rw [List.length_map]
    exact h.count
  slots key := by
    show (hub.connections.updateWhere _ f hf).tally _ key ≤ _
    rw [tally_updateWhere_of_attr hf fun c => by rw [hf c]]
    exact h.slots key
  cap := h.cap
  holds c hc p hp := by
    obtain ⟨d, hd, rfl⟩ := (mem_updateWhere hf).mp hc
    by_cases hid : d.id = id
    · rw [if_pos (decide_eq_true hid)] at hp ⊢
      rw [hf]
      rcases hprin d p hp with hsame | hbook
      · exact h.holds d hd p hsame
      · rwa [hid]
    · rw [if_neg (by simpa using hid)] at hp ⊢
      exact h.holds d hd p hp

lemma reserve {connection : Connection} {p : Principal}
    {resv : GatewayHub} (hfind : hub.connections.find? id = some connection)
    (hnone : connection.principal = none)
    (hresv : hub.reserveHelloPrincipal config connection p = some resv) :
    SlotsWithin config (update slot id (some p.connectionKey)) resv := by
  rw [reserveHelloPrincipal, hnone] at hresv
  dsimp only [map_none] at hresv
  rw [if_neg (some_ne_none _).symm] at hresv
  split_ifs at hresv with hcap
  obtain rfl := some.inj hresv
  obtain ⟨hmem, hid⟩ := find?_eq_some_iff.mp hfind
  refine ⟨h.ids, h.count, fun key => ?_, takePrincipalSlot_le h.cap (not_le.mp hcap), ?_⟩
  · have htally : tally _ _ key + _ = _ + _ :=
      tally_update slot (some p.connectionKey) hfind
    have hslots := h.slots key
    show hub.connections.tally _ key ≤ takePrincipalSlot hub.perPrincipal p.connectionKey key
    rw [takePrincipalSlot_apply]
    simp only [some.injEq] at htally
    omega
  · intro c hc q hq
    have hne : c.id ≠ id := by
      intro hcid
      rw [eq_of_key_eq hc hmem (hcid.trans hid.symm), hnone] at hq
      cases hq
    rw [update_of_ne hne]
    exact h.holds c hc q hq

lemma unregister (id : Nat) : SlotsWithin config slot (hub.unregister id) := by
  have hids := idsBelow_unregister h.ids id
  rw [GatewayHub.unregister] at hids ⊢
  cases hfind : hub.connections.find? id with
  | none => exact h
  | some c =>
    rw [hfind] at hids
    have hmem := (find?_eq_some_iff.mp hfind).1
    have hcount : (hub.connections.deleteWhere fun d => d.id = id).rows.length ≤
        config.maxWebSocketConnections := (List.length_filter_le _ _).trans h.count
    have hholds : ∀ d ∈ hub.connections.deleteWhere fun d => d.id = id, ∀ p,
        d.principal = some p → slot d.id = some p.connectionKey :=
      fun d hd => h.holds d (mem_deleteWhere.mp hd).1
    have htally : ∀ key, tally _ (fun d : Connection => slot d.id) key + _ = _ :=
      fun key => tally_deleteWhere hfind
    dsimp only at hids ⊢
    cases hprin : c.principal with
    | none =>
      rw [hprin] at hids
      refine ⟨hids, hcount, fun key => ?_, h.cap, hholds⟩
      exact (Nat.le_of_add_right_le (htally key).le).trans (h.slots key)
    | some p =>
      rw [hprin] at hids
      refine ⟨hids, hcount, fun key => ?_, fun key => ?_, hholds⟩
      · have hgone := htally key
        have hslots := h.slots key
        have hhas : has (fun d : Connection => slot d.id) c key =
          if p.connectionKey = key then 1 else 0 :=
          has_of_some (h.holds c hmem p hprin)
        show (hub.connections.deleteWhere fun d => d.id = id).tally (fun d => slot d.id) key ≤
          releasePrincipalSlot hub.perPrincipal p.connectionKey key
        rw [releasePrincipalSlot_apply]
        omega
      · show releasePrincipalSlot hub.perPrincipal p.connectionKey key ≤ _
        rw [releasePrincipalSlot_apply]
        exact (Nat.sub_le _ _).trans (h.cap key)

end

end SlotsWithin

/-! ## Tasks and their connections -/

/-- What a task knows of its connection. -/
def HelloStep.Agrees (slot : Nat → Option String) (connection : Connection) : HelloStep → Prop
  | .idle => True
  | .read existing => connection.principal = existing
  | .booked p => slot connection.id = some p.connectionKey

namespace TaskStage

/-- A task that owes a count or a push handles no `Hello`. -/
def Knows (slot : Nat → Option String) (connection : Connection) : TaskStage → Prop
  | .here _ step => step.Agrees slot connection
  | _ => True

variable {slot : Nat → Option String} {c c' : Connection} {stage : TaskStage}

lemma knows_after (own : Option Nat) (push : Bool) : (after own push).Knows slot c := by
  cases push with
  | true => trivial
  | false =>
    cases own with
    | none | some => trivial

lemma knows_attached (id : Nat) (moves : List (String × Int)) :
    (attached id moves).Knows slot c := by
  rw [attached]
  split_ifs
  · trivial
  · trivial

lemma own_attached (id : Nat) (moves : List (String × Int)) :
    (attached id moves).own = some id := by
  rw [attached]
  split_ifs
  · rfl
  · rfl

lemma Knows.congr {slot' : Nat → Option String} (h : stage.Knows slot c) (hid : c'.id = c.id)
    (hp : c'.principal = c.principal) (hslot : slot' c.id = slot c.id) : stage.Knows slot' c' := by
  cases stage with
  | here _ step =>
    cases step with
    | idle => trivial
    | _ => simpa only [Knows, HelloStep.Agrees, hid, hp, hslot] using h
  | _ => trivial

end TaskStage

/-- The invariant: the hub is within its caps, and the tasks know the truth about their
connections. -/
structure WithinCaps (config : GatewayConfig) (place : ι → TaskStage) (slot : Nat → Option String)
    (hub : GatewayHub) : Prop
    extends SlotsWithin config slot hub, Placed (Knows slot) place hub

namespace WithinCaps

open GatewayHub

variable {config : GatewayConfig} {place : ι → TaskStage} {slot : Nat → Option String}
  {hub : GatewayHub} {i : ι} {id : Nat} {seen : HelloStep} {stage : TaskStage}

lemma start (config : GatewayConfig) :
    WithinCaps config (fun _ : ι => .away .unchecked) (fun _ => none) .new :=
  ⟨SlotsWithin.new, Placed.start⟩

section

variable (h : WithinCaps config place slot hub)
include h

lemma quiet {f : Connection → Connection} {hf : ∀ c, (f c).id = c.id}
    (hprin : ∀ c, (f c).principal = c.principal) :
    WithinCaps config place slot (hub.modify id f hf) := by
  refine ⟨h.toSlotsWithin.modify hf fun c p hp => .inl ?_,
    h.toPlaced.mono (fun _ _ => find?_modify hprin) fun c c' stage hid hp hknows => ?_⟩
  · rwa [← hprin c]
  · exact hknows.congr hid hp rfl

lemma withTenants (counts : String → Nat) :
    WithinCaps config place slot { hub with tenantSubscriberCounts := counts } :=
  ⟨⟨h.ids, h.count, h.slots, h.cap, h.holds⟩, h.one, h.live⟩

variable [DecidableEq ι]

lemma move {pre : TaskStage} (hi : place i = pre)
    (hknows : ∀ c, hub.connections.find? c.id = some c → pre.own = some c.id →
      pre.Knows slot c → stage.Knows slot c)
    (hown : ∀ k, stage.own = some k → pre.own = some k := by exact fun _ hk => hk) :
    WithinCaps config (update place i stage) slot hub :=
  ⟨h.toSlotsWithin, h.toPlaced.move hi hknows hown⟩

lemma update (hi : (place i).own = some id)
    {slot' : Nat → Option String} {hub' : GatewayHub} (hwithin : SlotsWithin config slot' hub')
    (hfind : ∀ k, k ≠ id → hub'.connections.find? k = hub.connections.find? k)
    (hslot : ∀ k, k ≠ id → slot' k = slot k)
    (hself : ∀ {k}, stage.own = some k →
      k = id ∧ ∃ c, hub'.connections.find? k = some c ∧ stage.Knows slot' c) :
    WithinCaps config (update place i stage) slot' hub' :=
  ⟨hwithin, h.toPlaced.update id (fun hj => h.one hj hi) hfind
    (fun c _ hne hknows => hknows.congr rfl rfl (hslot c.id hne)) hself⟩

lemma register {p : Option Principal} (hroom : HasRoom config hub p)
    (bearer : Option String) (push : Bool) :
    WithinCaps config (Function.update place i (.after (some hub.nextId) push))
      (Function.update slot hub.nextId (p.map connectionKey))
      (hub.register p bearer) := by
  refine ⟨h.toSlotsWithin.register hroom bearer, h.toPlaced.update hub.nextId ?_ ?_ ?_ ?_⟩
  · exact fun hj => absurd hj (h.own_ne_nextId h.ids)
  · intro k hk
    exact find?_upsert_of_ne hk
  · intro c _ hne hknows
    exact hknows.congr rfl rfl (update_of_ne hne _ _)
  · intro k hk
    rw [own_after] at hk
    obtain rfl := some.inj hk
    exact ⟨rfl, _, find?_upsert_self _ _, knows_after _ _⟩

variable (hi : place i = .here id seen)
include hi

lemma attach {authed : Option (Principal × String)} (appId : String)
    (hbook : ∀ found ∈ authed, seen = .booked found.1) (moves : List (String × Int)) :
    WithinCaps config (Function.update place i (.attached id moves)) slot
      (hub.attach id authed appId) := by
  obtain ⟨hown, c, hc, hid, hagr⟩ := h.live_of_eq hi rfl
  refine h.update hown (h.toSlotsWithin.modify _ fun d p hp => ?_) (fun k => find?_modify_of_ne)
    (fun _ _ => rfl) ?_
  · cases authed with
    | none => exact .inl hp
    | some found =>
      rw [hbook found rfl] at hagr
      obtain rfl : found.1 = p := some.inj hp
      right
      rwa [← hid]
  · intro k hk
    rw [own_attached] at hk
    obtain rfl := some.inj hk
    exact ⟨rfl, _, find?_modify_self hc, knows_attached _ _⟩

lemma unregister (push : Bool) :
    WithinCaps config (Function.update place i (.after none push)) slot (hub.unregister id) := by
  refine h.update (by rw [hi]; rfl) (h.toSlotsWithin.unregister id)
    (fun k => find?_unregister_of_ne) (fun _ _ => rfl) ?_
  intro k hk
  rw [own_after] at hk
  cases hk

end

variable [DecidableEq ι]

lemma reserve {s : SharedHub} (h : WithinCaps config place slot s.hub)
    {old : Option Principal} (hi : place i = .here id (.read old)) {p : Principal}
    (hadm : ∀ e ∈ old, samePrincipal e p) :
    let after := HubSection.handle config s (.reserveHelloPrincipal id p)
    ∃ slot', WithinCaps config (Function.update place i
      (.here id (if after.2 then .booked p else .idle))) slot' after.1.hub := by
  obtain ⟨hown, c, hc, rfl, hagr⟩ := h.live_of_eq hi rfl
  rw [HubSection.handle_reserveHelloPrincipal config s hc p]
  cases hresv : s.hub.reserveHelloPrincipal config c p with
  | none => exact ⟨slot, h.move hi fun _ _ _ _ => trivial⟩
  | some resv =>
    have hconns := connections_reserveHelloPrincipal hresv
    cases old with
    | none =>
      refine ⟨_, h.update hown (h.toSlotsWithin.reserve hc hagr hresv)
        (fun k _ => by rw [hconns]) (fun k hk => update_of_ne hk _ _) ?_⟩
      intro k hk
      obtain rfl := some.inj hk
      exact ⟨rfl, c, by rw [hconns, hc], update_self ..⟩
    | some e =>
      have hkey : e.connectionKey = p.connectionKey :=
        (keys_eq_of_samePrincipal (hadm e rfl)).1.symm
      have hsame : resv = s.hub := by
        rw [reserveHelloPrincipal, show c.principal = some e from hagr, map_some,
          if_pos (congrArg some hkey)] at hresv
        exact (some.inj hresv).symm
      refine ⟨slot, h.update hown (hsame ▸ h.toSlotsWithin) (fun k _ => by rw [hsame])
        (fun k _ => rfl) ?_⟩
      intro k hk
      obtain rfl := some.inj hk
      refine ⟨rfl, c, by rw [hsame, hc], ?_⟩
      show slot c.id = _
      rw [h.holds c (find?_eq_some_iff.mp hc).1 e hagr, hkey]

lemma handle {clustered : Bool} {s : SharedHub} (h : WithinCaps config place slot s.hub)
    {o : HubSection} (hroom : ∀ p bearer, o = .register p bearer → HasRoom config s.hub p)
    (hmoved : MovedBy config clustered (place i) stage o (HubSection.handle config s o).2) :
    ∃ slot', WithinCaps config (Function.update place i stage) slot'
      (HubSection.handle config s o).1.hub := by
  cases o with
  | register p bearer =>
    obtain ⟨_, -, -, rfl⟩ := hmoved
    exact ⟨_, h.register (hroom p bearer rfl) bearer _⟩
  | connectionCount | principalCount key =>
    obtain ⟨hi, rfl⟩ := hmoved
    exact ⟨slot, h.move hi fun _ _ _ _ => trivial⟩
  | connectionPrincipal id =>
    obtain ⟨step, hi, rfl⟩ := hmoved
    refine ⟨slot, h.move hi fun c hc hown _ => ?_⟩
    obtain rfl := some.inj hown
    show c.principal = (s.hub.connections.find? c.id).bind Connection.principal
    rw [hc]
    rfl
  | reserveHelloPrincipal =>
    obtain ⟨old, hi, hadm, rfl⟩ := hmoved
    exact h.reserve hi hadm
  | attach _ _ appId =>
    obtain ⟨step, hi, hbook, rfl⟩ := hmoved
    exact ⟨slot, h.attach hi appId hbook _⟩
  | applyTenantTransitions =>
    obtain ⟨id, hi, rfl⟩ := hmoved
    refine ⟨slot, (h.withTenants _).move hi (fun _ _ _ _ => knows_after _ _) fun k hk => ?_⟩
    rwa [own_after] at hk
  | unregister =>
    obtain ⟨step, hi, rfl⟩ := hmoved
    exact ⟨slot, h.unregister hi _⟩
  | tenants =>
    obtain ⟨own, hi, rfl⟩ := hmoved
    exact ⟨slot, h.move hi fun _ _ _ _ => trivial⟩
  | setSubscribedTenants =>
    obtain ⟨own, hi, rfl⟩ := hmoved
    refine ⟨slot, h.move hi (fun _ _ _ _ => knows_after own false) fun k hk => ?_⟩
    rwa [own_resting] at hk
  | send id msg | moveTask id task =>
    obtain ⟨-, rfl⟩ := hmoved
    rw [update_eq_self]
    exact ⟨slot, h.quiet fun c => rfl⟩

end WithinCaps

/-! ## Checks -/

namespace Admission

def Holds (config : GatewayConfig) (hub : GatewayHub) : Admission → Prop
  | .unchecked => True
  | .counted => hub.connections.rows.length < config.maxWebSocketConnections
  | .cleared key => hub.connections.rows.length < config.maxWebSocketConnections ∧
    (hub.perPrincipal key : Int) < config.maxConnectionsPerPrincipal

variable {config : GatewayConfig} {hub hub' : GatewayHub} {seen : Admission}

lemma Holds.hasRoom {principal : Option Principal} (h : seen.Holds config hub)
    (hadm : seen.admits principal) : HasRoom config hub principal := by
  cases principal with
  | none =>
    cases seen with
    | counted => exact ⟨h, nofun⟩
    | _ => cases hadm
  | some p =>
    cases seen with
    | cleared key =>
      obtain rfl := of_decide_eq_true hadm
      exact ⟨h.1, fun q hq => some.inj hq ▸ h.2⟩
    | _ => cases hadm

lemma Holds.mono (h : seen.Holds config hub)
    (hconns : hub'.connections.rows.length ≤ hub.connections.rows.length)
    (hslots : ∀ key, seen = .cleared key → hub'.perPrincipal key ≤ hub.perPrincipal key) :
    seen.Holds config hub' := by
  cases seen with
  | unchecked => trivial
  | counted => exact hconns.trans_lt h
  | cleared key =>
    have hkey := hslots key rfl
    refine ⟨hconns.trans_lt h.1, ?_⟩
    have hroom := h.2
    omega

end Admission

section

open GatewayHub

variable {config : GatewayConfig} {hub : GatewayHub}

lemma perPrincipal_reserve_le {c : Connection} {p : Principal} {reserved : GatewayHub}
    {key : String} (h : hub.reserveHelloPrincipal config c p = some reserved)
    (hkey : p.connectionKey ≠ key) :
    reserved.perPrincipal key ≤ hub.perPrincipal key := by
  unfold GatewayHub.reserveHelloPrincipal at h
  dsimp only at h
  split_ifs at h
  · rw [← some.inj h]
  · rw [← some.inj h]
    show takePrincipalSlot _ p.connectionKey key ≤ _
    rw [takePrincipalSlot_apply, if_neg hkey]
    cases c.principal with
    | none => exact le_rfl
    | some e =>
      show releasePrincipalSlot hub.perPrincipal e.connectionKey key ≤ _
      rw [releasePrincipalSlot_apply]
      exact Nat.sub_le _ _

lemma unregister_le (hub : GatewayHub) (id : Nat) :
    (hub.unregister id).connections.rows.length ≤ hub.connections.rows.length ∧
      ∀ key, (hub.unregister id).perPrincipal key ≤ hub.perPrincipal key := by
  rw [connections_unregister]
  refine ⟨List.length_filter_le _ _, fun key => ?_⟩
  unfold GatewayHub.unregister
  split
  · exact le_rfl
  dsimp only
  split
  · exact le_rfl
  · show releasePrincipalSlot hub.perPrincipal _ key ≤ _
    rw [releasePrincipalSlot_apply]
    exact Nat.sub_le _ _

/-- A section that registers nobody leaves room for everybody else, but for the principal whose slot
it books. -/
lemma Admission.Holds.handle {s : SharedHub} {o : HubSection} {seen : Admission}
    (h : seen.Holds config s.hub) (hreg : ∀ p bearer, o ≠ .register p bearer)
    (hbook : ∀ id p, o = .reserveHelloPrincipal id p → seen ≠ .cleared p.connectionKey) :
    seen.Holds config (HubSection.handle config s o).1.hub := by
  have hmodify (id : Nat) (f : Connection → Connection) (hf : ∀ c, (f c).id = c.id) :
      seen.Holds config (s.hub.modify id f hf) :=
    h.mono (List.length_map ..).le fun _ _ => le_rfl
  cases o with
  | register p bearer => exact absurd rfl (hreg p bearer)
  | reserveHelloPrincipal id p =>
    rw [HubSection.handle]
    split
    · exact h
    next reserved hres =>
      refine h.mono (by rw [connections_reserveHelloPrincipal hres]) fun key hkey => ?_
      exact perPrincipal_reserve_le hres fun heq => hbook id p rfl (heq ▸ hkey)
  | attach | send | moveTask => exact hmodify _ _ _
  | applyTenantTransitions => exact h.mono le_rfl fun _ _ => le_rfl
  | unregister id =>
    obtain ⟨hconns, hslots⟩ := unregister_le s.hub id
    exact h.mono hconns fun key _ => hslots key
  | _ => exact h

end

/-- The hub is within its caps, and what a task has found is so while its checks are up to date. -/
structure Admits (config : GatewayConfig) (clustered : Bool) (place : ι → TaskStage)
    (slot : Nat → Option String) (x : Watched (HubWorld ι) ι) : Prop where
  follows : Follows (taskDiscipline config clustered) (fun _ p => p = .away .unchecked) place
    x.state
  within : WithinCaps config place slot x.state.store.hub
  inTime : ∀ i seen, place i = .away seen → x.outdated i = false →
    seen.Holds config x.state.store.hub

namespace Admits

variable {config : GatewayConfig} {clustered : Bool} {place : ι → TaskStage}
  {slot : Nat → Option String} {x : Watched (HubWorld ι) ι} {i : ι}

lemma pending_of_cleared (h : Admits config clustered place slot x) {key : String}
    (hi : place i = .away (.cleared key)) :
    ∃ q bearer, x.state.pending i = some (.register (some q) bearer) ∧ q.connectionKey = key := by
  obtain ⟨o, stage', hpend, hmoved⟩ := exists_pending_of_follows h.follows (by rw [hi]; nofun)
  rw [hi] at hmoved
  cases o with
  | register p bearer =>
    obtain ⟨_, ⟨⟩, hadm, -⟩ := hmoved
    cases p with
    | none => cases hadm
    | some q => exact ⟨q, bearer, hpend, of_decide_eq_true hadm⟩
  | connectionCount | principalCount | send | moveTask => cases hmoved.1
  | _ => obtain ⟨_, ⟨⟩, -⟩ := hmoved

lemma holds_self {o : HubSection} {seen : Admission} (h : Admits config clustered place slot x)
    (hmoved : MovedBy config clustered (place i) (.away seen) o
      (HubSection.handle config x.state.store o).2)
    (hfresh : countsConnections x.state i = false → x.outdated i = false)
    (hpend : x.state.pending i = some o) :
    seen.Holds config (HubSection.handle config x.state.store o).1.hub := by
  have hresting {own : Option Nat} (hstage : .away seen = resting own) : seen = .unchecked := by
    rcases resting_cases own with haway | ⟨id, hhere⟩
    · exact TaskStage.away.inj (hstage.trans haway)
    · cases hstage.trans hhere
  have hrest {own : Option Nat} {push : Bool} (hstage : .away seen = after own push) :
      seen = .unchecked := by
    cases push with
    | true => cases hstage
    | false => exact hresting hstage
  cases o with
  | connectionCount =>
    obtain ⟨-, hstage⟩ := hmoved
    split_ifs at hstage with hfull
    · cases hstage
      trivial
    · cases hstage
      exact not_le.mp hfull
  | principalCount key =>
    obtain ⟨hi, hstage⟩ := hmoved
    have hroom := h.inTime i _ hi (hfresh (by rw [countsConnections, hpend]))
    split_ifs at hstage with hcap
    · cases hstage
      trivial
    · cases hstage
      exact ⟨hroom, not_le.mp hcap⟩
  | register =>
    obtain ⟨_, -, -, hstage⟩ := hmoved
    rw [hrest hstage]
    trivial
  | unregister | applyTenantTransitions =>
    obtain ⟨_, -, hstage⟩ := hmoved
    rw [hrest hstage]
    trivial
  | setSubscribedTenants =>
    obtain ⟨own, -, hstage⟩ := hmoved
    rw [hresting hstage]
    trivial
  | attach id authed appId =>
    obtain ⟨_, -, -, hstage⟩ := hmoved
    rw [attached] at hstage
    split_ifs at hstage
  | reserveHelloPrincipal => obtain ⟨_, -, -, ⟨⟩⟩ := hmoved
  | connectionPrincipal | tenants => obtain ⟨_, -, ⟨⟩⟩ := hmoved
  | send | moveTask =>
    obtain ⟨hsettled, hstage⟩ := hmoved
    rw [← hstage] at hsettled
    cases hsettled

variable [DecidableEq ι]

/-- **Step.** A task that registers in time takes the room that its checks found. -/
lemma step (h : Admits config clustered place slot x) (hg : Watch.InTime registers x i) :
    ∃ place' slot', Admits config clustered place' slot'
      (admissionWatch.step (step (HubSection.handle config)) x i) := by
  cases hpend : x.state.pending i with
  | none =>
    have hstate : (admissionWatch.step (Workers.step (HubSection.handle config)) x i).state =
        x.state := step_of_pending_none hpend
    refine ⟨place, slot, hstate ▸ h.follows, hstate ▸ h.within, fun j seen hj hfresh => ?_⟩
    rw [hstate]
    refine h.inTime j seen hj (Watch.outdated_of_not_looks ?_ hfresh)
    show countsConnections x.state i = false
    rw [countsConnections, hpend]
  | some o =>
    obtain ⟨stage, hnext, hfollows⟩ := h.follows.step (HubSection.handle config) hpend
    have hmoved := movedBy_of_taskDiscipline hnext
    have hroom (p bearer) (ho : o = .register p bearer) : HasRoom config x.state.store.hub p := by
      subst ho
      obtain ⟨seen, hi, hadm, -⟩ := hmoved
      exact (h.inTime i seen hi (hg (by rw [registers, hpend]))).hasRoom hadm
    obtain ⟨slot', hwithin⟩ := h.within.handle hroom hmoved
    have hstore : (admissionWatch.step (Workers.step (HubSection.handle config)) x i).state.store =
        _ := store_step_of_pending (HubSection.handle config) hpend
    refine ⟨_, slot', hfollows, hstore ▸ hwithin, fun j seen hj hfresh => ?_⟩
    rw [hstore]
    by_cases hji : j = i
    · subst hji
      rw [update_self] at hj
      subst hj
      refine h.holds_self hmoved (fun hlook => ?_) hpend
      exact Watch.outdated_of_not_looks hlook hfresh
    · rw [update_of_ne hji] at hj
      obtain ⟨hold, hspoilt⟩ := Watch.outdated_of_ne hji hfresh
      obtain ⟨hreg, hbook⟩ := Bool.or_eq_false_iff.mp hspoilt
      refine (h.inTime j seen hj hold).handle (fun p bearer ho => ?_) fun id p ho hkey => ?_
      · subst ho
        simp [registers, hpend] at hreg
      · subst ho hkey
        obtain ⟨q, bearer, hq, hkey⟩ := h.pending_of_cleared hj
        simp [booksSlotOf, hpend, hq, hkey] at hbook

end Admits

/-! ## Runs -/

variable [DecidableEq ι]

/-- **The caps.** In every run in which no other task registers, or books a slot of the same
principal, between the checks of `run_connection` and its registration, the hub has at most as many
connections as it may have, and every principal too. -/
theorem caps_hold (config : GatewayConfig) (clustered : Bool) (attempts : ι → ConnectAttempt)
    (schedule : List ι)
    (hguard : Guarded (admissionWatch.step (step (HubSection.handle config)))
      (Watch.InTime registers) (.start (HubWorld.start config clustered attempts)) schedule) :
    let hub := (run (step (HubSection.handle config)) (HubWorld.start config clustered attempts)
      schedule).store.hub
    hub.connections.rows.length ≤ config.maxWebSocketConnections ∧
      ∀ key, hub.connections.tally (countsFor connectionKey) key ≤
        config.maxConnectionsPerPrincipal.toNat := by
  have hstart : Admits config clustered (fun _ => .away .unchecked) (fun _ => none)
      (.start (HubWorld.start config clustered attempts)) :=
    ⟨fun i => keeps_runConnection config clustered (attempts i), WithinCaps.start config,
      fun _ _ hi _ => by cases hi; trivial⟩
  obtain ⟨_, _, h⟩ := run_invariant
    (I := fun x => ∃ place slot, Admits config clustered place slot x)
    (fun _ _ ⟨_, _, h⟩ hg => h.step hg) ⟨_, _, hstart⟩ hguard
  have hwithin := h.within
  rw [Watch.run_state] at hwithin
  exact ⟨hwithin.count, hwithin.tally_le⟩

/-! ## Two sockets -/

def anaTwice : Nat → ConnectAttempt := fun _ => ⟨some (member "ana"), none, []⟩

/-- Ana's second socket finds her one slot taken. -/
theorem second_socket_turned_away :
    let hub := (run (step (HubSection.handle oneEach)) (HubWorld.start oneEach false anaTwice)
      [0, 0, 0, 1, 1]).store.hub
    hub.connections.rows.length ≤ 10 ∧
      ∀ key, hub.connections.tally (countsFor connectionKey) key ≤ 1 :=
  caps_hold oneEach false anaTwice [0, 0, 0, 1, 1] (by decide +kernel)

/-- Two sockets look before either is counted: Ana has two connections where she may have one, and a
hub for one connection has two. -/
theorem both_sockets_pass :
    (run (step (HubSection.handle oneEach)) (HubWorld.start oneEach false anaTwice)
      [0, 1, 0, 1, 0, 1]).store.hub.connections.tally (countsFor connectionKey)
        (member "ana").connectionKey = 2 ∧
    (run (step (HubSection.handle { oneEach with maxWebSocketConnections := 1 }))
      (HubWorld.start { oneEach with maxWebSocketConnections := 1 } false fun _ : Nat =>
        ⟨none, none, []⟩) [0, 1, 0, 1]).store.hub.connections.rows.length = 2 := by
  decide +kernel

end Frick.Properties
