import LiveTex.Pattern.Program
import LiveTex.Text.Basic

/-!
Searching a text for a pattern. Threads stand in the order of preference, and a thread that comes to an
instruction where a preferred one already stands is dropped, so the work at each character is bounded by
the size of the program. A thread that starts later is less preferred than those before it.
-/

namespace LiveTex.Pattern

/-- A thread at an instruction, with the start of its match and the ends of the first group. Positions
are counted in characters from the start of the text. -/
structure Thread where
  address : Nat
  start : Nat
  groupStart : Option Nat
  groupEnd : Option Nat
  deriving Repr

/-- The threads at one position: those that wait for a character or have accepted, the least preferred one
first. At every address stands the last position where a thread has been there, counted from one. -/
structure Crowd where
  waiting : List Thread
  seen : Array Nat

def Crowd.empty (program : Array Instr) : Crowd := ⟨[], Array.replicate program.size 0⟩

/-- The characters around a position, and the number of characters before it. -/
structure Place where
  before : Option Char
  after : Option Char
  count : Nat

/-- Where a thread goes on without taking a character, the preferred way first. -/
def Thread.next (t : Thread) (place : Place) : Instr → List Thread
  | .char _ | .accept => []
  | .jump target => [{ t with address := target }]
  | .split preferred other => [{ t with address := preferred }, { t with address := other }]
  | .anchor a => if a.holds place.before place.after then [{ t with address := t.address + 1 }] else []
  | .groupStart => [{ t with address := t.address + 1, groupStart := some place.count }]
  | .groupEnd => [{ t with address := t.address + 1, groupEnd := some place.count }]

def Instr.waits : Instr → Bool
  | .char _ | .accept => true
  | _ => false

/-- Follows threads to the instructions that take a character. A step takes a thread from the list, and
puts two there at most when the thread comes to a new address, so twice the addresses is fuel enough. -/
def follow (program : Array Instr) (place : Place) : (fuel : Nat) → List Thread → Crowd → Crowd
  | 0, _, crowd | _, [], crowd => crowd
  | fuel + 1, t :: threads, crowd =>
    match program[t.address]? with
    | none => follow program place fuel threads crowd
    | some instr =>
      if crowd.seen.getD t.address 0 = place.count + 1 then follow program place fuel threads crowd
      else
        let seen := crowd.seen.setIfInBounds t.address (place.count + 1)
        let waiting := if instr.waits then t :: crowd.waiting else crowd.waiting
        follow program place fuel (t.next place instr ++ threads) ⟨waiting, seen⟩

/-- Follows one thread. -/
def enter (program : Array Instr) (place : Place) (t : Thread) (crowd : Crowd) : Crowd :=
  follow program place (2 * program.size + 1) [t] crowd

/-- A match: the characters before it and in it, and where the first group starts and ends inside it. -/
structure Hit where
  start : Nat
  length : Nat
  group : Option (Nat × Nat)
  deriving Repr, DecidableEq

/-- The match of a thread that accepts at a position. -/
def Thread.hit (t : Thread) (here : Nat) : Hit :=
  ⟨t.start, here - t.start, match t.groupStart, t.groupEnd with
    | some a, some b => some (a - t.start, b - t.start)
    | _, _ => none⟩

/-- One character for all threads: the crowd behind it, and the match of the first thread that has
accepted. Threads after that one are dropped. -/
def advance (program : Array Instr) (here : Nat) (c : Option Char) (place : Place) :
    List Thread → Crowd → Crowd × Option Hit
  | [], crowd => (crowd, none)
  | t :: ts, crowd => match program[t.address]? with
    | some .accept => (crowd, some (t.hit here))
    | some (.char s) =>
      if c.any s.has then
        advance program here c place ts
          (enter program place { t with address := t.address + 1 } crowd)
      else advance program here c place ts crowd
    | _ => advance program here c place ts crowd

/-- Before the first match a thread starts at every position. -/
def Crowd.started (crowd : Crowd) (program : Array Instr) (place : Place) (best : Option Hit) : Crowd :=
  if best.isNone then enter program place ⟨0, place.count, none, none⟩ crowd else crowd

/-- Runs the threads of a crowd to the end of the text or until none is left. A later match comes from a
preferred thread, so it replaces an earlier one. -/
def run (program : Array Instr) (crowd : Crowd) (here : Nat) (best : Option Hit) (before : Option Char) :
    Text → Option Hit
  | [] =>
    let crowd := crowd.started program ⟨before, none, here⟩ best
    (advance program here none ⟨none, none, here + 1⟩ crowd.waiting.reverse
      ⟨[], crowd.seen⟩).2.or best
  | c :: t =>
    let crowd := crowd.started program ⟨before, c, here⟩ best
    if best.isSome && crowd.waiting.isEmpty then best
    else
      let (crowd, hit) :=
        advance program here (some c) ⟨some c, t.head?, here + 1⟩ crowd.waiting.reverse
          ⟨[], crowd.seen⟩
      run program crowd (here + 1) (hit.or best) (some c) t

/-- The first match in a text, given the character before the text. Of the matches that start at the same
place it is the preferred one. -/
def search (program : Array Instr) (before : Option Char) (t : Text) : Option Hit :=
  run program (.empty program) 0 none before t

end LiveTex.Pattern
