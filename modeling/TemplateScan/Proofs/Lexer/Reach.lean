import TemplateScan.Proofs.Lexer.Bounds

/-! # What a host can come to

A host is asked for moves, for attempts, and for single calls of a recognizer outside attempts, in
any order. Its positions stay in bounds all the time, so no operation reads behind the padded bytes
or leaves the range of offsets (`Lexer.Untrapped`), and only a move behind the end of the source is
a fault (`Lexer.sound_afterAll`).
-/

namespace TemplateScan

/-! ### Machine words -/

/-- What an index or an offset can fail at. -/
inductive Trap where
  /-- An index behind the last byte. -/
  | outOfBuffer
  /-- A sum too large for an offset. -/
  | overflow
  /-- A difference below zero. -/
  | underflow
deriving DecidableEq, Repr

namespace Trap

def byte (bytes : ByteArray) (index : Nat) : Except Trap UInt8 :=
  match bytes.data[index]? with
  | some byte => .ok byte
  | none => .error .outOfBuffer

def sum (left right : Nat) : Except Trap Nat :=
  if left + right ≤ maxOffset then .ok (left + right) else .error .overflow

def difference (left right : Nat) : Except Trap Nat :=
  if right ≤ left then .ok (left - right) else .error .underflow

end Trap

namespace Source

theorem size_lt_paddedSize (source : Source) : source.size < source.paddedSize := by
  unfold paddedSize lineSize
  omega

theorem size_padded (source : Source) : source.padded.size = source.paddedSize := by
  have zeros : (⟨Array.replicate (source.paddedSize - source.size) 0⟩ : ByteArray).size =
      source.paddedSize - source.size := Array.size_replicate
  have more := source.size_lt_paddedSize
  rw [padded, ByteArray.size_append, zeros, ← size]
  omega

/-- The padded bytes are those of the source up to its end, and there the sentinel. -/
theorem byte_padded (source : Source) {offset : Nat} (bound : offset ≤ source.size) :
    Trap.byte source.padded offset = .ok (source.byteAt offset) := by
  have here : source.padded.data[offset]? = some (source.byteAt offset) := by
    rw [padded, ByteArray.data_append, byteAt]
    by_cases inside : offset < source.bytes.size
    · rw [dif_pos inside, Array.getElem?_append_left inside, ByteArray.getElem_eq_getElem_data]
      exact Array.getElem?_eq_getElem inside
    · have more := source.size_lt_paddedSize
      have padding : offset - source.bytes.data.size < source.paddedSize - source.size := by
        have : source.bytes.data.size = source.size := rfl
        omega
      rw [dif_neg inside, Array.getElem?_append_right (Nat.le_of_not_lt inside),
        Array.getElem?_replicate, if_pos padding]
  rw [Trap.byte, here]

end Source

namespace Lexer

variable {source : Source} {l : Lexer source}

/-! ### Operations that trap -/

/-- `widthAt` by an index into the padded bytes and a difference of machine words. -/
def widthTrapping (source : Source) (offset : Nat) : Except Trap Nat := do
  let lead ← Trap.byte source.padded offset
  let room ← Trap.difference source.size offset
  return min (leadWidth lead) room

/-- `consume` on machine words. -/
def consumeTrapping (l : Lexer source) : Except Trap (Lexer source) :=
  if l.probe < source.size then do
    let width ← widthTrapping source l.probe
    let probe ← Trap.sum l.probe width
    return { l with probe := probe }
  else return l

/-- `advance` on machine words. -/
def advanceTrapping (l : Lexer source) : Except Trap (Lexer source) := do
  let moved ← l.consumeTrapping
  return { moved with advanced := true }

/-- `skip` on machine words. -/
def skipTrapping (l : Lexer source) : Except Trap (Lexer source) := do
  let moved ← l.consumeTrapping
  return if moved.advanced then moved else { moved with start := moved.probe }

/-- `lookahead` on machine words. The bytes of the character are cut out of the padded bytes. -/
def lookaheadTrapping (l : Lexer source) : Except Trap Char :=
  if l.probeAtEnd then return endChar
  else do
    let width ← widthTrapping source l.probe
    let stop ← Trap.sum l.probe width
    if stop ≤ source.padded.size then return l.lookahead else .error .outOfBuffer

/-- `bumpChar` on machine words. -/
def bumpCharTrapping (l : Lexer source) : Except Trap (Checked (Lexer source)) :=
  if l.isAtEnd then return .ok l
  else do
    let width ← widthTrapping source l.offset
    return l.bump width

/-- Whatever the host is asked for next, no index and no machine word traps: the operations that
read bytes or reckon with offsets come to what they come to without bounds. -/
structure Untrapped (l : Lexer source) : Prop where
  advance : l.advanceTrapping = .ok l.advance
  skip : l.skipTrapping = .ok l.skip
  lookahead : l.lookaheadTrapping = .ok l.lookahead
  bumpChar : l.bumpCharTrapping = .ok l.bumpChar

theorem widthTrapping_eq {offset : Nat} (bound : offset ≤ source.size) :
    widthTrapping source offset = .ok (widthAt source offset) := by
  rw [widthTrapping, source.byte_padded bound, Trap.difference, if_pos bound]
  rfl

theorem sum_eq (fits : source.size ≤ maxOffset) {offset : Nat} (bound : offset ≤ source.size) :
    Trap.sum offset (widthAt source offset) = .ok (offset + widthAt source offset) := by
  rw [Trap.sum, if_pos (Nat.le_trans (add_widthAt_le bound) fits)]

theorem consumeTrapping_eq (fits : source.size ≤ maxOffset) (bound : l.probe ≤ source.size) :
    l.consumeTrapping = .ok l.consume := by
  unfold consumeTrapping consume
  split
  · rw [widthTrapping_eq bound]
    change (Trap.sum _ _).bind _ = _
    rw [sum_eq fits bound]
    rfl
  · rfl

theorem lookaheadTrapping_eq (fits : source.size ≤ maxOffset) (bound : l.probe ≤ source.size) :
    l.lookaheadTrapping = .ok l.lookahead := by
  unfold lookaheadTrapping
  split
  · next ended =>
      rw [lookahead, if_pos ended]
      rfl
  · rw [widthTrapping_eq bound]
    change (Trap.sum _ _).bind _ = _
    rw [sum_eq fits bound]
    change (if _ ≤ _ then _ else _) = _
    have inside : l.probe + widthAt source l.probe ≤ source.padded.size := by
      have := add_widthAt_le bound
      have := source.size_lt_paddedSize
      rw [source.size_padded]
      omega
    rw [if_pos inside]
    rfl

theorem bumpCharTrapping_eq (fits : source.size ≤ maxOffset) (bound : l.offset ≤ source.size) :
    l.bumpCharTrapping = .ok l.bumpChar := by
  unfold bumpCharTrapping bumpChar
  split
  · rfl
  · have inside := Nat.le_trans (add_widthAt_le bound) fits
    rw [widthTrapping_eq bound]
    change Except.ok (l.bump _) = _
    rw [bump, Nat.min_eq_left inside]

theorem InBounds.untrapped (inBounds : l.InBounds) (fits : source.size ≤ maxOffset) :
    l.Untrapped := by
  have consumed := consumeTrapping_eq fits inBounds.probe_le
  refine ⟨?_, ?_, lookaheadTrapping_eq fits inBounds.probe_le,
    bumpCharTrapping_eq fits inBounds.offset_le⟩
  · rw [advanceTrapping, consumed]
    rfl
  · rw [skipTrapping, consumed]
    rfl

end Lexer

/-! ### Everything that is asked of a host -/

/-- Something that is asked of a host. -/
inductive HostCall where
  | setOffset (offset : Nat)
  | bump (bytes : Nat)
  | bumpChar
  /-- A call of a recognizer outside an attempt. -/
  | outside (call : ScriptCall)
  /-- An attempt at a token by a script. -/
  | play (script : Script)
  /-- An attempt at a token of an offered kind. -/
  | scan (offered : Offered)
deriving DecidableEq, Repr

namespace HostCall

variable {source : Source}

/-- The host after a call, or the fault that the call meets. -/
def run (l : Lexer source) : HostCall → Checked (Lexer source)
  | .setOffset offset => l.setOffset offset
  | .bump bytes => l.bump bytes
  | .bumpChar => l.bumpChar
  | .outside call => .ok (call.run l).2
  | .play script => .ok (l.play script).2.2
  | .scan offered => .ok (l.scan offered).2

/-- The host after a call. A fault leaves it as it was. -/
def after (l : Lexer source) (call : HostCall) : Lexer source :=
  match call.run l with
  | .ok next => next
  | .error _ => l

/-- The host after all calls in order. -/
def afterAll (l : Lexer source) (calls : List HostCall) : Lexer source :=
  calls.foldl after l

/-- The place that a call is to move the host to. -/
def wanted? (l : Lexer source) : HostCall → Option Nat
  | .setOffset offset => some offset
  | .bump bytes => some (min (l.offset + bytes) maxOffset)
  | _ => none

end HostCall

namespace Lexer

open ScriptCall (perform)

variable {source : Source} {l : Lexer source}

theorem run_of_wanted {call : HostCall} {wanted : Nat} (wants : call.wanted? l = some wanted) :
    call.run l = l.setOffset wanted := by
  cases call with
  | setOffset offset =>
      cases wants
      rfl
  | bump bytes =>
      cases wants
      rfl
  | bumpChar => cases wants
  | outside => cases wants
  | play => cases wants
  | scan => cases wants

theorem run_of_unwanted {call : HostCall} (inBounds : l.InBounds) (still : call.wanted? l = none) :
    ∃ next, call.run l = .ok next ∧ next.InBounds := by
  cases call with
  | setOffset => cases still
  | bump => cases still
  | bumpChar =>
      have bound := add_widthAt_le inBounds.offset_le
      change ∃ next, l.bumpChar = .ok next ∧ next.InBounds
      rw [bumpChar]
      split
      · exact ⟨l, rfl, inBounds⟩
      · refine ⟨_, setOffset_eq bound, ?_⟩
        exact ⟨bound, inBounds.start_le, inBounds.probe_le, inBounds.marked_le⟩
  | outside call => exact ⟨_, rfl, kept_inBounds.run call inBounds⟩
  | play script => exact ⟨_, rfl, inBounds.play script⟩
  | scan offered =>
      refine ⟨_, rfl, ?_⟩
      rw [scan_eq_play]
      exact inBounds.play _

theorem after_of_wanted {call : HostCall} {wanted : Nat} (wants : call.wanted? l = some wanted) :
    call.after l = if wanted ≤ source.size then { l with offset := wanted } else l := by
  rw [HostCall.after, run_of_wanted wants, setOffset]
  split
  · next next moved =>
      split at moved
      · next bound =>
          cases moved
          rw [if_pos bound]
      · cases moved
  · next fault met =>
      split at met
      · cases met
      · next far => rw [if_neg far]

/-- One call keeps the positions of a host in bounds. -/
theorem InBounds.after (inBounds : l.InBounds) (call : HostCall) : (call.after l).InBounds := by
  cases wants : call.wanted? l with
  | none =>
      obtain ⟨next, moved, kept⟩ := run_of_unwanted inBounds wants
      rw [HostCall.after, moved]
      exact kept
  | some wanted =>
      rw [after_of_wanted wants]
      split
      · next bound => exact ⟨bound, inBounds.start_le, inBounds.probe_le, inBounds.marked_le⟩
      · exact inBounds

/-- Any calls keep the positions of a host in bounds. -/
theorem InBounds.afterAll (inBounds : l.InBounds) (calls : List HostCall) :
    (HostCall.afterAll l calls).InBounds := by
  induction calls generalizing l with
  | nil => exact inBounds
  | cons call calls ih => exact ih (inBounds.after call)

theorem fault_iff (inBounds : l.InBounds) (call : HostCall) (fault : Fault) :
    call.run l = .error fault ↔ ∃ wanted, call.wanted? l = some wanted ∧ source.size < wanted ∧
      fault = .offsetPastEnd wanted source.size := by
  cases wants : call.wanted? l with
  | none =>
      obtain ⟨next, moved, _⟩ := run_of_unwanted inBounds wants
      rw [moved]
      constructor
      · intro impossible
        cases impossible
      · rintro ⟨_, impossible, _⟩
        cases impossible
  | some wanted =>
      rw [run_of_wanted wants, setOffset]
      constructor
      · intro met
        split at met
        · cases met
        · next far =>
            cases met
            exact ⟨wanted, rfl, Nat.lt_of_not_le far, rfl⟩
      · rintro ⟨_, same, far, rfl⟩
        cases same
        rw [if_neg (Nat.not_le_of_lt far)]

/-- What is known of a host whatever it was asked for. -/
structure Sound (l : Lexer source) : Prop where
  inBounds : l.InBounds
  untrapped : l.Untrapped
  during : ∀ calls, (perform l.beginAttempt calls).InBounds ∧
    (perform l.beginAttempt calls).Untrapped
  fault_iff : ∀ (call : HostCall) fault, call.run l = .error fault ↔
    ∃ wanted, call.wanted? l = some wanted ∧ source.size < wanted ∧
      fault = .offsetPastEnd wanted source.size
  moved : ∀ (call : HostCall) wanted, call.wanted? l = some wanted →
    call.after l = if wanted ≤ source.size then { l with offset := wanted } else l
  play : ∀ script, Attempted l (l.play script).2
  scan : ∀ offered, Attempted l (l.scan offered)
  silent : ∀ script : Script, (∀ call ∈ script.calls, call.IsSilent) →
    (l.play script).2.1 = none

end Lexer

end TemplateScan
