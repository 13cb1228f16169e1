import PostMortem.Reporter.Escalation

/-! # Checks

A check that passes does nothing; one that fails escalates exactly one fault. In a build that captures call sites the
fault carries the place of the check, else it carries none. The program counter is never available to a check.

* `Reporter.checkResult`, `Reporter.checkBool`, `Reporter.checkAssert`, `Reporter.orFault`: the checks.
* `Reporter.handleCheckedResult`, `Reporter.handleAssert`: escalation with a place in every build, and the forms
  without one.
-/
set_option autoImplicit false

namespace PostMortem.Reporter

/-! ## Entry points -/

def handleCheckedResult {α : Type} (build : Build) (code : StatusCode) (site : CallSite) (r : Reporter) :
    Ending α × Reporter :=
  r.escalate build.payloadAddress pcUnavailable (.error (.ofSite code site))

def handleCheckedResultMinimal {α : Type} (build : Build) (code : StatusCode) (r : Reporter) : Ending α × Reporter :=
  r.escalate build.payloadAddress pcUnavailable (.error (.bare code))

def handleAssert {α : Type} (build : Build) (site : CallSite) (r : Reporter) : Ending α × Reporter :=
  r.escalate build.payloadAddress pcUnavailable (.assertion (.ofSite site))

def handleAssertMinimal {α : Type} (build : Build) (r : Reporter) : Ending α × Reporter :=
  r.escalate build.payloadAddress pcUnavailable (.assertion .bare)

/-! ## Checks -/

/-- Escalates a status, with its place if the build captures places. -/
def escalateCode {α : Type} (build : Build) (code : StatusCode) (site : CallSite) (r : Reporter) :
    Ending α × Reporter :=
  if build.capturesSites then r.handleCheckedResult build code site else r.handleCheckedResultMinimal build code

/-- Escalates a violated assertion, with its place if the build captures places. -/
def escalateAssert {α : Type} (build : Build) (site : CallSite) (r : Reporter) : Ending α × Reporter :=
  if build.capturesSites then r.handleAssert build site else r.handleAssertMinimal build

/-- Escalates a status that is not the successful one. -/
def checkResult (build : Build) (code : StatusCode) (site : CallSite) (r : Reporter) : Ending Unit × Reporter :=
  if code.isSuccess then (.returned (), r) else r.escalateCode build code site

/-- Escalates the neutral code when a condition does not hold. -/
def checkBool (build : Build) (condition : Bool) (site : CallSite) (r : Reporter) : Ending Unit × Reporter :=
  if condition then (.returned (), r) else r.escalateCode build .neutral site

/-- Escalates a violated assertion when a condition does not hold. -/
def checkAssert (build : Build) (condition : Bool) (site : CallSite) (r : Reporter) : Ending Unit × Reporter :=
  if condition then (.returned (), r) else r.escalateAssert build site

/-- The value of a result, or the escalation of its code, even if that is zero. -/
def orFault {α : Type} (build : Build) (result : Except StatusCode α) (site : CallSite) (r : Reporter) :
    Ending α × Reporter :=
  match result with
  | .ok value => (.returned value, r)
  | .error code => r.escalateCode build code site

end PostMortem.Reporter
