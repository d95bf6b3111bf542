import WebAuth.Web.Report

/-!
# The report program

Reports on the issuer that the environment names, and tries the token that it names.
-/

open WebAuth WebAuth.Http WebAuth.Web

/-- The world of the program, which has no way to any server. -/
def programWorld : World :=
  World.initial (Realm.initial ⟨0, 0⟩ ⟨toString, 0⟩) Network.deserted
    ⟨fun n => [UInt8.ofNat n], 0⟩

/-- Write the report and, if it ends early, the reason. -/
def main : IO UInt32 := do
  let issuer ← IO.getEnv "GATEKEEP_ISSUER"
  let token ← IO.getEnv "GATEKEEP_TOKEN"
  let (ending, report) := Report.compose issuer token (Report.blank programWorld)
  for line in report.lines do
    IO.println line
  match ending with
  | .refused e => IO.eprintln e.message
  | _ => pure ()
  return (Report.exitCode ending).toUInt32
