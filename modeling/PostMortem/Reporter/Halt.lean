/-! # How a thread halts

A thread that has handled a fault parks, in a loop without an exit. Parking blocks it until it is unparked, and not at
all if it has been unparked since it parked last; it may also wake up for no reason. In each case it parks again.

* `haltCode`: the loop.
* `Waiting`: a thread that executes it; `Waiting.hasLeft`: whether it has come out.
* `Waiting.after`: what happens to it.
-/
set_option autoImplicit false

namespace PostMortem

/-- What a thread can do about waiting. -/
inductive Instruction
  | park
  | jump (target : Nat)
deriving DecidableEq, Repr

/-- The code of a thread that halts. -/
def haltCode : List Instruction := [.park, .jump 0]

/-- A thread that executes such a code. -/
structure Waiting where
  place : Nat := 0
  blocked : Bool := false
  /-- Whether it has been unparked since it parked last. -/
  permit : Bool := false
deriving DecidableEq, Repr

/-- What can happen to a thread. -/
inductive Turn
  /-- It goes on, unless it is blocked. -/
  | runs
  | unparked
  /-- It wakes up for no reason. -/
  | wakes
deriving DecidableEq, Repr

namespace Waiting

/-- Whether a thread has come out of its code. -/
def hasLeft (code : List Instruction) (w : Waiting) : Bool := code.length ≤ w.place

/-- Parking comes to its end. -/
def unblock (w : Waiting) : Waiting := { w with blocked := false, place := w.place + 1 }

def execute (w : Waiting) : Instruction → Waiting
  | .park => if w.permit then { w with permit := false, place := w.place + 1 } else { w with blocked := true }
  | .jump target => { w with place := target }

def after (code : List Instruction) (w : Waiting) : Turn → Waiting
  | .runs => if w.blocked then w else (code[w.place]?.map w.execute).getD w
  | .unparked => if w.blocked then w.unblock else { w with permit := true }
  | .wakes => if w.blocked then w.unblock else w

/-- What many turns lead to, one after the other. -/
def afterAll (code : List Instruction) (w : Waiting) (turns : List Turn) : Waiting := turns.foldl (after code) w

end Waiting

end PostMortem
