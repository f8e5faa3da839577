import LineCoverage.Extraction
import LineCoverage.Config

/-!
# The renderer

A renderer is a program that turns a tracefile into a directory of pages. It is started with the
tracefile, the directory and the configured arguments, and has to end with code zero.
-/

namespace LineCoverage

inductive ExitStatus where
  | code (n : Nat)
  | signal (name : String)
  deriving DecidableEq, Repr

def ExitStatus.isSuccess (s : ExitStatus) : Bool := s = .code 0

/-- The code that stands for an exit; a program that a signal ended has none. -/
def ExitStatus.number : ExitStatus → Int
  | .code n => n
  | .signal _ => -1

def ExitStatus.message : ExitStatus → Bytes
  | .code n => utf8 "exit status " ++ Decimal.ofNat n
  | .signal name => utf8 "signal: " ++ utf8 name

inductive StartFault where
  | notInstalled (name : Bytes)
  | relative (name : Bytes)
  | refused (path : Bytes) (cause : SystemCause)
  | canceled
  deriving DecidableEq, Repr

def StartFault.message : StartFault → Bytes
  | .notInstalled name =>
    utf8 "exec: " ++ Quoted.quote name ++ utf8 ": executable file not found in $PATH"
  | .relative name =>
    utf8 "exec: " ++ Quoted.quote name ++ utf8 ": cannot run executable found relative to current directory"
  | .refused path cause => utf8 "fork/exec " ++ path ++ utf8 ": " ++ utf8 cause.message
  | .canceled => canceledText

inductive RenderError where
  | unstarted (program : Bytes) (fault : StartFault)
  | exited (program : Bytes) (status : ExitStatus)
  | failed (text : Bytes)
  deriving DecidableEq, Repr

def RenderError.message : RenderError → Bytes
  | .unstarted program fault => utf8 "run " ++ program ++ utf8 ": " ++ fault.message
  | .exited program status =>
    program ++ utf8 " exited with code " ++ Decimal.ofInt status.number ++ utf8 ": " ++ status.message
  | .failed text => text

structure ProgramRun where
  status : ExitStatus
  output : Bytes
  complaints : Bytes
  store : Store

abbrev Launcher := Store → Bytes → List Bytes → Except StartFault ProgramRun

namespace Renderer

def defaultPath : Bytes := utf8 "genhtml"

def program (path : Bytes) : Bytes := if path = [] then defaultPath else path

def indexPath (dir : Bytes) : Bytes := Path.join dir (utf8 "index.html")

def arguments (info dir : Bytes) (extra : List Bytes) : List Bytes :=
  info :: utf8 "--output-directory" :: dir :: extra

structure Outcome where
  error : Option RenderError
  events : List Event
  store : Store

/-- Renders a tracefile into a directory. A missing program is found out before a cancellation. -/
def render (launch : Launcher) (path : Bytes) (extra : List Bytes) (s : Store) (canceled : Bool)
    (info dir : Bytes) : Outcome :=
  let program := program path
  let args := arguments info dir extra
  let opening := Event.log (.make .debug "running genhtml" [("cmd", Bytes.join [ch ' '] (program :: args))])
  let unstarted (fault : StartFault) : Outcome := ⟨some (.unstarted program fault), [opening], s⟩
  match launch s program args with
  | .error (.notInstalled name) => unstarted (.notInstalled name)
  | .error (.relative name) => unstarted (.relative name)
  | result =>
    if canceled then unstarted .canceled
    else
      match result with
      | .error fault => unstarted fault
      | .ok run =>
        ⟨if run.status.isSuccess then none else some (.exited program run.status),
          [opening, .output run.output, .complaint run.complaints], run.store⟩

end Renderer

end LineCoverage
