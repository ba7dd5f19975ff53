import DeviceGateway.Channel.Message

/-
  Reading on. The octets of a client make the same messages however they arrive: a message that is
  all there stays what it is when more octets follow (`message_push`), a fault stays a fault
  (`message_error_push`), and frames that make no message yet may as well be taken before more
  octets arrive as after (`message_none_push`).
-/

namespace DeviceGateway.Channel

/-! ## Frames -/

namespace Frame

variable {n : Nat} {bs front rest : Bytes}

theorem split?_append (h : split? n bs = some (front, rest)) (more : Bytes) :
    split? n (bs ++ more) = some (front, rest ++ more) := by
  unfold split? at h ⊢
  dsimp only at h ⊢
  split at h
  · next hlen =>
    cases h
    have hle : n ≤ bs.length := by
      rw [List.length_take] at hlen
      omega
    rw [List.take_append_of_le_length hle, List.drop_append_of_le_length hle, if_pos hlen]
  · cases h

theorem split?_length (h : split? n bs = some (front, rest)) : rest.length ≤ bs.length := by
  unfold split? at h
  dsimp only at h
  split at h
  · cases h
    rw [List.length_drop]
    omega
  · cases h

theorem length?_append {second : UInt8} (h : length? second bs = some (n, rest)) (more : Bytes) :
    length? second (bs ++ more) = some (n, rest ++ more) := by
  unfold length? at h ⊢
  dsimp only at h ⊢
  generalize (if second.toNat % 128 = 126 then 2 else if second.toNat % 128 = 127 then 8 else 0) =
    width at h ⊢
  split at h
  · next hwidth =>
    cases h
    rw [if_pos hwidth]
  · next hwidth =>
    obtain ⟨⟨field, rest'⟩, hsplit, heq⟩ := Option.map_eq_some_iff.mp h
    cases heq
    rw [if_neg hwidth, split?_append hsplit more]
    rfl

theorem length?_length {second : UInt8} (h : length? second bs = some (n, rest)) :
    rest.length ≤ bs.length := by
  unfold length? at h
  dsimp only at h
  generalize (if second.toNat % 128 = 126 then 2 else if second.toNat % 128 = 127 then 8 else 0) =
    width at h
  split at h
  · cases h
    exact Nat.le_refl _
  · obtain ⟨⟨field, rest'⟩, hsplit, heq⟩ := Option.map_eq_some_iff.mp h
    cases heq
    exact split?_length hsplit

theorem mask?_append {second : UInt8} {mask : Option Mask}
    (h : mask? second bs = some (mask, rest)) (more : Bytes) :
    mask? second (bs ++ more) = some (mask, rest ++ more) := by
  unfold mask? at h ⊢
  split at h
  · next hclear =>
    cases h
    rw [if_pos hclear]
  · next hset =>
    obtain ⟨⟨octets, rest'⟩, hsplit, heq⟩ := Option.map_eq_some_iff.mp h
    cases heq
    rw [if_neg hset, split?_append hsplit more]
    rfl

theorem mask?_length {second : UInt8} {mask : Option Mask}
    (h : mask? second bs = some (mask, rest)) : rest.length ≤ bs.length := by
  unfold mask? at h
  split at h
  · cases h
    exact Nat.le_refl _
  · obtain ⟨⟨octets, rest'⟩, hsplit, heq⟩ := Option.map_eq_some_iff.mp h
    cases heq
    exact split?_length hsplit

/-- A header is two octets and, behind them, what the second of these calls for. -/
theorem header?_eq_some {flags length : Nat} {mask : Option Mask}
    (h : header? bs = some (flags, length, mask, rest)) :
    ∃ first second tail rest', bs = first :: second :: tail ∧ flags = first.toNat ∧
      length? second tail = some (length, rest') ∧ mask? second rest' = some (mask, rest) := by
  unfold header? at h
  split at h
  · next first second tail =>
    obtain ⟨⟨length', rest'⟩, hlength, h⟩ := Option.bind_eq_some_iff.mp h
    obtain ⟨⟨mask', rest''⟩, hmask, h⟩ := Option.bind_eq_some_iff.mp h
    cases h
    exact ⟨first, second, tail, rest', rfl, rfl, hlength, hmask⟩
  · cases h

theorem header?_append {flags length : Nat} {mask : Option Mask}
    (h : header? bs = some (flags, length, mask, rest)) (more : Bytes) :
    header? (bs ++ more) = some (flags, length, mask, rest ++ more) := by
  obtain ⟨first, second, tail, rest', rfl, rfl, hlength, hmask⟩ := header?_eq_some h
  simp [header?, length?_append hlength more, mask?_append hmask more]

theorem header?_length {flags length : Nat} {mask : Option Mask}
    (h : header? bs = some (flags, length, mask, rest)) : rest.length < bs.length := by
  obtain ⟨first, second, tail, rest', rfl, _, hlength, hmask⟩ := header?_eq_some h
  have h₁ := length?_length hlength
  have h₂ := mask?_length hmask
  simp only [List.length_cons]
  omega

/-- A frame that is there stays the first, whatever follows. -/
theorem take_append {f : Frame} (h : take bs = .ok (some (f, rest))) (more : Bytes) :
    take (bs ++ more) = .ok (some (f, rest ++ more)) := by
  unfold take at h ⊢
  split at h
  · cases h
  · next flags length mask tail hheader =>
    rw [header?_append hheader more]
    dsimp only at h ⊢
    split at h
    · cases h
    · split at h
      · cases h
      · next hlength =>
        rw [if_neg hlength]
        split at h
        · cases h
        · next payload tail' hsplit =>
          cases h
          rw [split?_append hsplit more]

/-- A fault stays a fault, whatever follows. -/
theorem take_error_append {fault : FrameFault} (h : take bs = .error fault) (more : Bytes) :
    take (bs ++ more) = .error fault := by
  unfold take at h ⊢
  split at h
  · cases h
  · next flags length mask tail hheader =>
    rw [header?_append hheader more]
    dsimp only at h ⊢
    split at h
    · exact h
    · split at h
      · next hlength =>
        rw [if_pos hlength]
        exact h
      · split at h <;> cases h

/-- A frame takes octets. -/
theorem take_length {f : Frame} (h : take bs = .ok (some (f, rest))) : rest.length < bs.length := by
  unfold take at h
  split at h
  · cases h
  · next flags length mask tail hheader =>
    have hless := header?_length hheader
    dsimp only at h
    split at h
    · cases h
    · split at h
      · cases h
      · split at h
        · cases h
        · next payload tail' hsplit =>
          cases h
          exact Nat.lt_of_le_of_lt (split?_length hsplit) hless

end Frame

/-! ## Messages -/

namespace Receiver

variable {r r' : Receiver} {m : Message} {fault : FrameFault}

/-- The receiver with other octets that have arrived. -/
def withBuffer (r : Receiver) (buffer : Bytes) : Receiver := { r with buffer }

/-- The receiver when more octets have arrived. -/
def push (r : Receiver) (bs : Bytes) : Receiver := r.withBuffer (r.buffer ++ bs)

theorem push_push (r : Receiver) (bs cs : Bytes) : (r.push bs).push cs = r.push (bs ++ cs) := by
  unfold push withBuffer
  rw [List.append_assoc]

theorem push_nil (r : Receiver) : r.push [] = r := by
  unfold push withBuffer
  rw [List.append_nil]

/-- Accepting a frame does not look at the octets that follow it. -/
theorem accept_withBuffer (r : Receiver) (f : Frame) (buffer : Bytes) :
    (r.withBuffer buffer).accept f =
      (r.accept f).map fun (r', m) => (r'.withBuffer buffer, m) := by
  have hgather : ∀ fragments, (r.withBuffer buffer).gather fragments f =
      (r.gather fragments f).map fun (r', m) => (r'.withBuffer buffer, m) := by
    intro fragments
    unfold gather withBuffer
    cases fragments.extend f.payload with
    | error e => rfl
    | ok fragments' =>
      cases hfinal : f.final with
      | true =>
        cases hcomplete : fragments'.complete <;>
          simp [hcomplete, bind, pure, Except.bind, Except.pure, Except.map]
      | false => simp [bind, pure, Except.bind, Except.pure, Except.map]
  unfold accept
  rw [show (r.withBuffer buffer).fragments = r.fragments from rfl]
  split
  · rfl
  split
  · rfl
  split
  · cases controlMessage f <;> rfl
  · generalize f.opcode = opcode, r.fragments = fragments
    cases opcode <;> cases fragments <;> first | exact hgather _ | rfl

theorem accept_buffer {f : Frame} {o : Option Message} (h : r.accept f = .ok (r', o)) :
    r'.buffer = r.buffer := by
  have hsame := accept_withBuffer r f r.buffer
  rw [show r.withBuffer r.buffer = r from rfl, h] at hsame
  injection hsame with hsame
  exact congrArg (fun o => o.1.buffer) hsame

theorem accept_push {f : Frame} {o : Option Message} (h : r.accept f = .ok (r', o))
    (more : Bytes) : (r.push more).accept f = .ok (r'.push more, o) := by
  unfold push
  rw [accept_withBuffer, h, accept_buffer h]
  rfl

theorem accept_error_push {f : Frame} (h : r.accept f = .error fault) (more : Bytes) :
    (r.push more).accept f = .error fault := by
  unfold push
  rw [accept_withBuffer, h]
  rfl

/-! ### One frame -/

/-- Takes one frame, if it is all there. -/
def pull (r : Receiver) : Except FrameFault (Option (Receiver × Option Message)) :=
  match Frame.take r.buffer with
  | .error e => .error e
  | .ok none => .ok none
  | .ok (some (f, rest)) => ((r.withBuffer rest).accept f).map some

theorem next_succ (n : Nat) (r : Receiver) : r.next (n + 1) =
    match r.pull with
    | .error e => .error e
    | .ok none => .ok (r, none)
    | .ok (some (r', some m)) => .ok (r', some m)
    | .ok (some (r', none)) => r'.next n := by
  conv => lhs; unfold next
  unfold pull
  cases Frame.take r.buffer with
  | error e => rfl
  | ok o =>
    cases o with
    | none => rfl
    | some fr =>
      obtain ⟨f, rest⟩ := fr
      dsimp only
      unfold withBuffer
      cases accept { r with buffer := rest } f with
      | error e => rfl
      | ok o =>
        obtain ⟨r', m?⟩ := o
        cases m? <;> rfl

theorem pull_push {o : Option Message} (h : r.pull = .ok (some (r', o))) (more : Bytes) :
    (r.push more).pull = .ok (some (r'.push more, o)) := by
  unfold pull at h ⊢
  split at h
  · cases h
  · cases h
  · next f rest htake =>
    rw [show Frame.take (r.push more).buffer = .ok (some (f, rest ++ more)) from
      Frame.take_append htake more]
    dsimp only
    cases haccept : (r.withBuffer rest).accept f with
    | error e =>
      rw [haccept] at h
      cases h
    | ok o' =>
      rw [haccept] at h
      cases h
      rw [show (r.push more).withBuffer (rest ++ more) = (r.withBuffer rest).push more from rfl,
        accept_push haccept]
      rfl

theorem pull_error_push (h : r.pull = .error fault) (more : Bytes) :
    (r.push more).pull = .error fault := by
  unfold pull at h ⊢
  split at h
  · next e htake =>
    rw [show Frame.take (r.push more).buffer = .error e from Frame.take_error_append htake more]
    exact h
  · cases h
  · next f rest htake =>
    rw [show Frame.take (r.push more).buffer = .ok (some (f, rest ++ more)) from
      Frame.take_append htake more]
    dsimp only
    cases haccept : (r.withBuffer rest).accept f with
    | error e =>
      rw [haccept] at h
      rw [show (r.push more).withBuffer (rest ++ more) = (r.withBuffer rest).push more from rfl,
        accept_error_push haccept]
      exact h
    | ok o =>
      rw [haccept] at h
      cases h

theorem pull_length {o : Option Message} (h : r.pull = .ok (some (r', o))) :
    r'.buffer.length < r.buffer.length := by
  unfold pull at h
  split at h
  · cases h
  · cases h
  · next f rest htake =>
    cases haccept : (r.withBuffer rest).accept f with
    | error e =>
      rw [haccept] at h
      cases h
    | ok o' =>
      rw [haccept] at h
      cases h
      rw [accept_buffer haccept]
      exact Frame.take_length htake

/-! ### Frames up to a message -/

/-- More fuel than there are octets is as good as any. -/
theorem next_fuel {n k : Nat} (hn : r.buffer.length < n) (hk : r.buffer.length < k) :
    r.next n = r.next k := by
  induction n generalizing r k with
  | zero => omega
  | succ n ih =>
    obtain ⟨k, rfl⟩ : ∃ j, k = j + 1 := ⟨k - 1, by omega⟩
    rw [next_succ, next_succ]
    split
    · rfl
    · rfl
    · rfl
    · next r' hpull =>
      have hless := pull_length hpull
      exact ih (by omega) (by omega)

theorem next_length {n : Nat} {o : Option Message} (h : r.next n = .ok (r', o)) :
    r'.buffer.length ≤ r.buffer.length ∧
      (o.isSome = true → r'.buffer.length < r.buffer.length) := by
  induction n generalizing r with
  | zero =>
    cases h
    exact ⟨Nat.le_refl _, fun h => by cases h⟩
  | succ n ih =>
    rw [next_succ] at h
    split at h
    · cases h
    · cases h
      exact ⟨Nat.le_refl _, fun h => by cases h⟩
    · next r'' m hpull =>
      cases h
      have hless := pull_length hpull
      exact ⟨by omega, fun _ => hless⟩
    · next r'' hpull =>
      have hless := pull_length hpull
      obtain ⟨hle, _⟩ := ih h
      exact ⟨by omega, fun _ => by omega⟩

theorem next_push {n k : Nat} (h : r.next n = .ok (r', some m)) (hk : n ≤ k) (more : Bytes) :
    (r.push more).next k = .ok (r'.push more, some m) := by
  induction n generalizing r k with
  | zero => cases h
  | succ n ih =>
    obtain ⟨k, rfl⟩ : ∃ j, k = j + 1 := ⟨k - 1, by omega⟩
    rw [next_succ] at h ⊢
    split at h
    · cases h
    · cases h
    · next r'' m' hpull =>
      cases h
      rw [pull_push hpull]
    · next r'' hpull =>
      rw [pull_push hpull]
      exact ih h (by omega)

theorem next_error_push {n k : Nat} (h : r.next n = .error fault) (hk : n ≤ k) (more : Bytes) :
    (r.push more).next k = .error fault := by
  induction n generalizing r k with
  | zero => cases h
  | succ n ih =>
    obtain ⟨k, rfl⟩ : ∃ j, k = j + 1 := ⟨k - 1, by omega⟩
    rw [next_succ] at h ⊢
    split at h
    · next e hpull =>
      rw [pull_error_push hpull]
      exact h
    · cases h
    · cases h
    · next r'' hpull =>
      rw [pull_push hpull]
      exact ih h (by omega)

/-- Frames that make no message yet may as well be taken before more octets arrive. -/
theorem next_none_push {n k : Nat} (h : r.next n = .ok (r', none)) (more : Bytes)
    (hk : (r.push more).buffer.length < k) : (r.push more).next k = (r'.push more).next k := by
  induction n generalizing r with
  | zero =>
    cases h
    rfl
  | succ n ih =>
    rw [next_succ] at h
    split at h
    · cases h
    · cases h
      rfl
    · cases h
    · next r'' hpull =>
      have hpushed := pull_push hpull more
      have hless := pull_length hpushed
      rw [← ih h (by omega)]
      obtain ⟨k, rfl⟩ : ∃ j, k = j + 1 := ⟨k - 1, by omega⟩
      rw [next_succ, hpushed]
      exact next_fuel (by omega) (by omega)

/-! ### The next message -/

theorem push_fuel (r : Receiver) (more : Bytes) :
    r.buffer.length + 1 ≤ (r.push more).buffer.length + 1 := by
  unfold push withBuffer
  rw [List.length_append]
  omega

/-- A message that is there stays the next, whatever follows. -/
theorem message_push (h : r.message = .ok (r', some m)) (more : Bytes) :
    (r.push more).message = .ok (r'.push more, some m) :=
  next_push h (push_fuel r more) more

/-- A fault stays, whatever follows. -/
theorem message_error_push (h : r.message = .error fault) (more : Bytes) :
    (r.push more).message = .error fault :=
  next_error_push h (push_fuel r more) more

/-- What has been taken of a message that is not there yet is taken once and for all. -/
theorem message_none_push (h : r.message = .ok (r', none)) (more : Bytes) :
    (r.push more).message = (r'.push more).message := by
  have hle := (next_length h).1
  have hlength : (r'.push more).buffer.length ≤ (r.push more).buffer.length := by
    unfold push withBuffer
    rw [List.length_append, List.length_append]
    omega
  have hsame := next_none_push h more (Nat.lt_succ_self _)
  exact hsame.trans (next_fuel (by omega) (Nat.lt_succ_self _))

end Receiver

end DeviceGateway.Channel
