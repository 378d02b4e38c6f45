import Frick.Framework.Run
import Frick.Server.OutboundWriter

/-!
# Outbound backpressure

The writer task counts a frame only while the socket has not accepted it, so when the limit is
checked the counter is zero, and what is checked is the length of one frame: the frames that wait in
the channel are never counted.
-/

namespace Frick.Properties

open Framework Server OutboundWriter
open OutboundMessage (length)

variable (maxOutbound : Nat) (w : OutboundWriter)

/-- Once the backlog has been over the limit, no frame has been sent, and what the writer does next
is to close with 1013. -/
def Enforced : Prop :=
  w.late = [] ∧ (w.overflowed = true → w.returned = false → w.sending = none →
    (w.recv maxOutbound).closeCode = some tryAgainLater)

/-- The message that the writer receives next is a frame over the limit. -/
def overInFront (channel : List OutboundMessage) : Bool :=
  channel.head?.any fun message => maxOutbound < message.length

/-- What is enqueued stays within the limit, or a frame over the limit is next in line. -/
def FitsOrCloses : WriterEvent → Prop
  | .enqueue message => w.backlog + message.length ≤ maxOutbound ∨
      overInFront maxOutbound (w.channel ++ [message]) = true
  | _ => True

instance : DecidablePred (FitsOrCloses maxOutbound w)
  | .enqueue _ => inferInstanceAs (Decidable (_ ∨ _))
  | .recv | .accept | .sendError => isTrue trivial

/-- Once over the limit, with such a frame in front. -/
structure ClosesNext : Prop where
  within : w.overflowed = false → w.backlog ≤ maxOutbound
  front : w.overflowed = true → w.returned = false → overInFront maxOutbound w.channel = true
  late : w.late = []

variable {maxOutbound w}

lemma exists_of_overInFront {channel : List OutboundMessage}
    (h : overInFront maxOutbound channel) :
    ∃ frameLen rest, channel = .frame frameLen :: rest ∧ maxOutbound < frameLen := by
  match channel with
  | [] => cases h
  | .frame frameLen :: rest => exact ⟨frameLen, rest, rfl, of_decide_eq_true h⟩
  | .close _ :: _ => simp [overInFront, length] at h

lemma ClosesNext.enforced (h : ClosesNext maxOutbound w) : Enforced maxOutbound w := by
  refine ⟨h.late, fun hover hret hsending => ?_⟩
  obtain ⟨frameLen, rest, hchan, hlen⟩ := exists_of_overInFront (h.front hover hret)
  have hexceeds : w.buffered + frameLen > maxOutbound := by omega
  simp [recv, hret, hsending, hchan, hexceeds]

lemma backlog_handle_le {ev : WriterEvent} (h : ∀ msg, ev ≠ .enqueue msg) :
    (w.handle maxOutbound ev).backlog ≤ w.backlog := by
  cases ev with
  | enqueue msg => exact absurd rfl (h msg)
  | recv =>
    rw [handle, recv]
    split
    next hsending hchan => simp [backlog, hchan]
    next hsending hchan =>
      split_ifs <;> simp [backlog, hchan, length] <;> omega
    · exact le_refl _
  | accept | sendError => simp [handle, backlog]

/-- Unless the writer is over the limit without a frame over the limit in front, nothing is sent
late; and such a frame stays in front until the loop returns. -/
lemma front_handle (ev : WriterEvent)
    (h : w.overflowed → w.returned = false → overInFront maxOutbound w.channel) :
    (w.handle maxOutbound ev).late = w.late ∧
      (w.overflowed → (w.handle maxOutbound ev).returned = false →
        overInFront maxOutbound (w.handle maxOutbound ev).channel) := by
  cases ev with
  | enqueue =>
    refine ⟨rfl, fun hover hret => ?_⟩
    obtain ⟨frameLen, rest, hchan, hlen⟩ := exists_of_overInFront (h hover hret)
    simp [handle, hchan, overInFront, length, hlen]
  | recv =>
    rw [handle, recv]
    split
    · exact ⟨rfl, fun _ => nofun⟩
    next frameLen channel hret _ hchan =>
      split_ifs with hlen hover
      · exact ⟨rfl, fun _ => nofun⟩
      · obtain ⟨_, _, hoth, hlong⟩ := exists_of_overInFront (h hover hret)
        obtain ⟨⟨⟩, rfl⟩ := List.cons.inj (hchan.symm.trans hoth)
        omega
      · exact ⟨rfl, fun hnot => absurd hnot hover⟩
    · exact ⟨rfl, h⟩
  | accept => exact ⟨rfl, h⟩
  | sendError => exact ⟨rfl, fun hover hret => h hover (by simp_all [handle])⟩

lemma overflowed_handle (ev : WriterEvent) :
    (w.handle maxOutbound ev).overflowed = w.overflowed := by
  cases ev with
  | recv =>
    rw [handle, recv]
    split
    · rfl
    · split_ifs <;> rfl
    · rfl
  | enqueue | accept | sendError => rfl

lemma ClosesNext.step (h : ClosesNext maxOutbound w) {ev : WriterEvent}
    (hfits : FitsOrCloses maxOutbound w ev) : ClosesNext maxOutbound (w.step maxOutbound ev) := by
  obtain ⟨hlate, hfront⟩ := front_handle ev h.front
  refine ⟨fun hafter => ?_, fun hafter hret => ?_, hlate.trans h.late⟩
  · exact not_lt.mp (of_decide_eq_false (Bool.or_eq_false_iff.mp hafter).2)
  · by_cases hover : w.overflowed
    · exact hfront hover hret
    · -- The backlog has gone over the limit just now, which only an enqueue can do.
      have hbacklog : maxOutbound < (w.handle maxOutbound ev).backlog := by
        simpa [OutboundWriter.step, overflowed_handle, hover] using hafter
      have hwithin := h.within (Bool.eq_false_iff.mpr hover)
      cases ev with
      | enqueue msg =>
        refine hfits.resolve_left fun hle => ?_
        simp [handle, backlog] at hbacklog hle
        omega
      | recv | accept | sendError =>
        exact absurd (hbacklog.trans_le (backlog_handle_le fun _ => nofun)) hwithin.not_gt

/-- **Every run** in which the enqueued frames meet the condition enforces the limit throughout. -/
theorem backpressure_enforced (maxOutbound : Nat) (events : List WriterEvent)
    (hfits : Guarded (OutboundWriter.step maxOutbound) (FitsOrCloses maxOutbound) {} events) :
    Enforced maxOutbound (run (OutboundWriter.step maxOutbound) {} events) :=
  (run_invariant (I := ClosesNext maxOutbound) (fun _ _ h hfits => h.step hfits)
    ⟨fun _ => Nat.zero_le _, Bool.noConfusion, rfl⟩ hfits).enforced

/-- Frames of three bytes that are accepted one by one, against a limit of four. -/
theorem backpressure_enforced_paced :
    Enforced 4 (run (OutboundWriter.step 4) {} [.enqueue (.frame 3), .recv, .accept,
      .enqueue (.frame 5), .recv]) :=
  backpressure_enforced 4 _ (by decide)

/-- **The backlog is not measured.** Two frames of three bytes are enqueued against a limit of four,
and both are sent. -/
theorem backlog_sent_over_limit :
    (run (OutboundWriter.step 4) {} [.enqueue (.frame 3), .enqueue (.frame 3), .recv, .accept,
      .recv]).late = [3, 3] := by
  decide

end Frick.Properties
