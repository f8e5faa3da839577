import LineCoverage.Script.Run

/-!
# Starting programs

How the renderer is found and run: a name without a slash is looked up where programs are installed,
and a script is run by the program that its first line names.
-/

namespace LineCoverage

namespace Script

def stepLimit : Nat := 1000000

/-- The path of the program with a name. One that was found in a relative directory is not run. -/
def findProgram (d : Disk) (env : List (Bytes × Bytes)) (name : Bytes) : Except StartFault Bytes :=
  let isProgram (path : Bytes) : Bool :=
    match Files.node? d true path with
    | .ok (_, .file _ executable) => executable
    | _ => false
  if name.contains Path.slash then .ok name
  else
    let search := (env.lookup (utf8 "PATH")).getD []
    let dirs := if search.isEmpty then [] else search.splitOn (ch ':')
    match (dirs.map fun dir => Path.join (if dir.isEmpty then Path.dot else dir) name).find? isProgram with
    | none => .error (.notInstalled name)
    | some path => if Path.isAbsolute path then .ok path else .error (.relative name)

/-- Runs a program on a disk, with the variables that it gets to see. -/
def launch (env : List (Bytes × Bytes)) : Launcher := fun store program args =>
  match store with
  | .memory _ => .error (.notInstalled program)
  | .disk d => do
    let full := Installed.addTo d
    let path ← findProgram full env program
    if program.contains 0 || args.any (·.contains 0) then .error (.refused path .invalid)
    else
      match Installed.resolve full Installed.levelLimit path (program :: args) with
      | .error cause => .error (.refused path cause)
      | .ok .unknown => .error (.refused path .notExecutable)
      | .ok (.machine m argv) =>
        let vars := env.map fun (n, v) => (n, { value := some v, exported := true })
        let s := runMachine stepLimit m argv { name := program, args := [], vars, disk := full }
        .ok { s.finish with store := .disk (Installed.removeFrom d s.disk) }

end Script

end LineCoverage
