import DeviceGateway.Channel.Task

/-
  What leaves for a client. The octets of the frames handed to the framing are, at every moment,
  those that the pipe has taken followed by those that still wait (`write_written`,
  `flush_written`): nothing is lost in between, and nothing overtakes.
-/

namespace DeviceGateway.Stream.Pipe

/-- The octets that the pipe has taken and the client has not. -/
def written (p : Pipe) : Bytes := p.outgoing.reverse.flatten

/-- Does the client read all that is written, on a connection without faults? -/
def Reads (p : Pipe) : Prop := p.room = none ∧ p.gone = false ∧ p.faults = {}

/-- A write takes a front of the octets and gives back the rest. -/
theorem write_written (p : Pipe) (bs : Bytes) :
    (p.write bs).1.written ++ (p.write bs).2.1 = p.written ++ bs := by
  unfold write
  split
  · next h => rw [List.isEmpty_iff.mp h]
  split
  · rfl
  · generalize min (p.room.getD bs.length) (p.faults.writable.getD bs.length) = n
    have hbs := List.take_append_drop n bs
    by_cases hn : bs.take n = []
    · rw [hn, List.nil_append] at hbs
      simp [written, hn, hbs]
    · simp [written, hn]

/-- Nothing comes in, and nobody hangs up, by a write. -/
theorem write_incoming (p : Pipe) (bs : Bytes) :
    (p.write bs).1.incoming = p.incoming ∧ (p.write bs).1.ended = p.ended := by
  unfold write
  split
  · exact ⟨rfl, rfl⟩
  split
  · exact ⟨rfl, rfl⟩
  · exact ⟨rfl, rfl⟩

/-- A write that takes nothing leaves the pipe as it is. -/
theorem write_idle {p : Pipe} {bs : Bytes} (hbs : bs ≠ [])
    (hlen : bs.length ≤ (p.write bs).2.1.length) : (p.write bs).1 = p := by
  unfold write at hlen ⊢
  have hempty : ¬ (bs.isEmpty = true) := fun h => hbs (List.isEmpty_iff.mp h)
  rw [if_neg hempty] at hlen ⊢
  by_cases hg : p.gone = true
  · rw [if_pos hg]
  · rw [if_neg hg] at hlen ⊢
    dsimp only at hlen ⊢
    generalize hn : min (p.room.getD bs.length) (p.faults.writable.getD bs.length) = n at hlen ⊢
    have hpos : 0 < bs.length := List.length_pos_iff.mpr hbs
    have hzero : n = 0 := by
      rw [List.length_drop] at hlen
      omega
    have hlessen : ∀ limit : Option Nat, lessen limit 0 = limit := by
      intro limit
      cases limit <;> rfl
    subst hzero
    simp [hlessen]

/-- A read writes nothing. -/
theorem read_written {p p' : Pipe} {max : Nat} {r : Poll Receipt} (h : p.read max = (p', r)) :
    p'.written = p.written := by
  unfold read at h
  split at h
  · cases h
    rfl
  split at h
  · split at h <;> cases h <;> rfl
  · cases h
    rfl

/-- A read that gives octets takes them from the front, one at least. -/
theorem read_takes {p p' : Pipe} {bs : Bytes} {max : Nat} (hmax : 0 < max)
    (h : p.read max = (p', .ready (.octets bs))) : bs ≠ [] ∧ p.incoming = bs ++ p'.incoming := by
  unfold read at h
  split at h
  · cases h
  · next hreadable =>
    split at h
    · split at h <;> cases h
    · next hincoming =>
      have hpos : 0 < p.incoming.length :=
        List.length_pos_iff.mpr fun hnil => hincoming (List.isEmpty_iff.mpr hnil)
      cases h
      refine ⟨?_, (List.take_append_drop _ _).symm⟩
      rw [← List.length_pos_iff, List.length_take]
      cases hlimit : p.faults.readable with
      | none =>
        dsimp only
        omega
      | some k =>
        have hk : k ≠ 0 := fun hzero => hreadable (hzero ▸ hlimit)
        dsimp only
        omega

/-- Reading all that has come in is no different. -/
theorem read_octets {p p' : Pipe} {bs : Bytes}
    (h : p.read p.incoming.length = (p', .ready (.octets bs))) :
    bs ≠ [] ∧ p.incoming = bs ++ p'.incoming := by
  refine read_takes (List.length_pos_iff.mpr fun hnil => ?_) h
  unfold read at h
  rw [if_pos (List.isEmpty_iff.mpr hnil)] at h
  split at h
  · cases h
  · split at h <;> cases h

/-- A write gives back no more than there was. -/
theorem write_length (p : Pipe) (bs : Bytes) : (p.write bs).2.1.length ≤ bs.length := by
  unfold write
  split
  · exact Nat.zero_le _
  split
  · exact Nat.le_refl _
  · dsimp only
    rw [List.length_drop]
    omega

/-- A write of which nothing is left is done. -/
theorem write_done {p : Pipe} {bs : Bytes} (h : (p.write bs).2.1 = []) :
    (p.write bs).2.2 = .done := by
  unfold write at h ⊢
  split at h
  · next hempty =>
    rw [if_pos hempty]
  · next hempty =>
    rw [if_neg hempty]
    split at h
    · exact absurd (List.isEmpty_iff.mpr h) hempty
    · next hgone =>
      rw [if_neg hgone]
      exact if_pos (List.isEmpty_iff.mpr h)

/-- What the client takes has been written. -/
theorem take_written (p : Pipe) : p.take.2 ++ p.take.1.written = p.written := by
  unfold take
  split
  · simp [written]
  · rfl

/-- A client that reads takes everything at once. -/
theorem write_of_reads {p : Pipe} (h : p.Reads) (bs : Bytes) :
    ∃ out, p.write bs = ({ p with outgoing := out }, [], .done) := by
  obtain ⟨hroom, hgone, hfaults⟩ := h
  unfold write
  split
  · exact ⟨p.outgoing, rfl⟩
  · refine ⟨if bs.isEmpty then p.outgoing else bs :: p.outgoing, ?_⟩
    simp [hroom, hgone, hfaults, lessen]

/-- What a client that reads has sent is read at once; then it has hung up, or says nothing yet. -/
theorem read_of_reads {p : Pipe} (h : p.Reads) : p.read p.incoming.length =
    if p.incoming = [] then (if p.ended then (p, .ready .ended) else (p, .pending))
    else ({ p with incoming := [] }, .ready (.octets p.incoming)) := by
  obtain ⟨hroom, hgone, hfaults⟩ := h
  unfold read
  rw [hfaults, hgone, if_neg (by simp)]
  by_cases hincoming : p.incoming = []
  · rw [if_pos (List.isEmpty_iff.mpr hincoming), if_pos hincoming, Bool.or_false]
  · rw [if_neg fun h => hincoming (List.isEmpty_iff.mp h), if_neg hincoming]
    simp [lessen, ← hfaults]

theorem octets_of_reads {p p' : Pipe} {bs : Bytes} (h : p.Reads)
    (hread : p.read p.incoming.length = (p', .ready (.octets bs))) :
    p.incoming ≠ [] ∧ p' = { p with incoming := [] } ∧ bs = p.incoming := by
  rw [read_of_reads h] at hread
  split at hread
  · split at hread <;> cases hread
  · next hincoming =>
    cases hread
    exact ⟨hincoming, rfl, rfl⟩

theorem ended_of_reads {p p' : Pipe} (h : p.Reads)
    (hread : p.read p.incoming.length = (p', .ready .ended)) :
    p.incoming = [] ∧ p.ended = true ∧ p' = p := by
  rw [read_of_reads h] at hread
  split at hread
  · next hincoming =>
    split at hread
    · next hended =>
      cases hread
      exact ⟨hincoming, hended, rfl⟩
    · cases hread
  · cases hread

/-- No read from a client that reads fails. -/
theorem not_failed_of_reads {p p' : Pipe} (h : p.Reads) :
    p.read p.incoming.length ≠ (p', .ready .failed) := by
  intro hread
  rw [read_of_reads h] at hread
  split at hread
  · split at hread <;> cases hread
  · cases hread

/-- The connection of a client that reads shuts down at once. -/
theorem shutdown_of_reads {p : Pipe} (h : p.Reads) : p.shutdown = (p.close, .ready true) := by
  obtain ⟨_, _, hfaults⟩ := h
  unfold shutdown
  rw [hfaults]

end DeviceGateway.Stream.Pipe

namespace DeviceGateway.Channel

open DeviceGateway.Stream (Pipe Progress)

/-- A frame that the gateway sends. -/
inductive Sent
  | text (s : String)
  | pong (data : Bytes)
  | close (c : Close)
  deriving DecidableEq, Repr

namespace Sent

/-- The octets of a frame. -/
def octets : Sent → Bytes
  | text s => Frame.outgoing .text (utf8 s)
  | pong data => Frame.outgoing .pong data
  | close c => Frame.outgoing .close c.payload

/-- The text that a frame carries. -/
def text? : Sent → Option String
  | text s => some s
  | _ => none

/-- The octets of frames, one frame after another. -/
def octetsOf (fs : List Sent) : Bytes := fs.flatMap octets

/-- The texts among frames. -/
def textsOf (fs : List Sent) : List String := fs.filterMap text?

theorem octetsOf_append (fs gs : List Sent) : octetsOf (fs ++ gs) = octetsOf fs ++ octetsOf gs :=
  List.flatMap_append

theorem textsOf_append (fs gs : List Sent) : textsOf (fs ++ gs) = textsOf fs ++ textsOf gs :=
  List.filterMap_append

end Sent

namespace Wire

open Sent

/-- The pong that is owed, as a frame. -/
def owed (w : Wire) : List Sent :=
  match w.pong with
  | some data => [.pong data]
  | none => []

theorem octetsOf_owed (w : Wire) : octetsOf w.owed = w.pongOctets := by
  unfold owed pongOctets
  cases w.pong
  · rfl
  · simp [octetsOf, octets]

theorem textsOf_owed (w : Wire) : textsOf w.owed = [] := by
  unfold owed
  cases w.pong <;> rfl

theorem queue_out (w : Wire) (bs : Bytes) :
    (w.queue bs).out = w.out ++ bs ++ octetsOf w.owed := by
  rw [octetsOf_owed]
  rfl

/-- A flush hands on the owed pong; what waits is then on the pipe, or still waits. -/
theorem flush_written (w : Wire) (p : Pipe) :
    (w.flush p).2.1.written ++ (w.flush p).1.out = p.written ++ w.out ++ octetsOf w.owed := by
  have h := Pipe.write_written p (w.queue []).out
  rw [queue_out, List.append_nil, ← List.append_assoc] at h
  rw [← h]
  rw [show w.out ++ octetsOf w.owed = (w.queue []).out by rw [queue_out, List.append_nil]]
  rfl

theorem flush_incoming (w : Wire) (p : Pipe) :
    (w.flush p).2.1.incoming = p.incoming ∧ (w.flush p).2.1.ended = p.ended :=
  Pipe.write_incoming p (w.queue []).out

/-- A flush that gets nowhere, though there was something to be written, leaves the pipe as it
is. -/
theorem flush_idle {w : Wire} {p : Pipe} (howes : w.owes = true)
    (hidle : w.advanced (w.flush p).1 = false) : (w.flush p).2.1 = p := by
  unfold advanced at hidle
  rw [Bool.or_eq_false_iff, decide_eq_false_iff_not, Nat.not_lt] at hidle
  obtain ⟨hpong, hlen⟩ := hidle
  have hnone : w.pong = none := Option.not_isSome_iff_eq_none.mp (by rw [hpong]; simp)
  have hout : (w.queue []).out = w.out := by
    rw [queue_out]
    simp [owed, hnone, octetsOf]
  have hne : w.out ≠ [] := by
    intro h
    unfold owes at howes
    rw [h, hpong] at howes
    cases howes
  have hflush : w.flush p = ({ w.queue [] with out := (p.write w.out).2.1 }, (p.write w.out).1,
      (p.write w.out).2.2) := by
    rw [← hout]
    rfl
  rw [hflush] at hlen ⊢
  exact Pipe.write_idle hne hlen

/-- Is there nothing to be written, or does nothing of it go? -/
def Quiet (w : Wire) (p : Pipe) : Prop := w.owes = true → w.advanced (w.flush p).1 = false

/-- To a client that reads, all that waits goes out. -/
theorem flush_of_reads {p : Pipe} (h : p.Reads) (w : Wire) :
    ∃ out, w.flush p =
      ({ w with out := [], pong := none }, { p with outgoing := out }, .done) := by
  obtain ⟨out, hw⟩ := Pipe.write_of_reads h (w.queue []).out
  refine ⟨out, ?_⟩
  unfold flush
  dsimp only
  rw [hw]
  rfl

theorem flush_done_of_reads {p : Pipe} (h : p.Reads) (w : Wire) : (w.flush p).2.2 = .done := by
  obtain ⟨out, hflush⟩ := flush_of_reads h w
  rw [hflush]

/-- Of what goes to a client that reads, nothing waits in quiet. -/
theorem quiet_of_reads {w : Wire} {p : Pipe} (h : p.Reads) (hquiet : w.Quiet p) :
    w.owes = false := by
  cases howes : w.owes with
  | false => rfl
  | true =>
    obtain ⟨out, hflush⟩ := flush_of_reads h w
    have hidle := hquiet howes
    rw [hflush] at hidle
    unfold advanced at hidle
    unfold owes at howes
    cases hout : w.out with
    | nil => simp_all
    | cons b bs => simp_all

end Wire

end DeviceGateway.Channel
