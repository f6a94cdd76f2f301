import Telemetry.Double
import Telemetry.Text.Digit

/-!
# Samples

A sample gives a value to each gauge of the process, of its memory management and of its host.
-/

namespace Telemetry.Agent

/-- The work of one generation of the memory management. -/
structure Generation where
  collections : Int
  collected : Int
  uncollectable : Int

/-- What is read off the process and its host. -/
structure Readings where
  residentMemory : Int
  virtualMemory : Int
  cpuPercent : Double
  threads : Int
  /-- The number of open files, unless the system does not tell. -/
  openFiles : Option Int
  objects : Int × Int × Int
  generations : List Generation
  totalMemory : Int
  availableMemory : Int
  cores : List Double
  random : Double

namespace Readings

def sum (r : Readings) (number : Generation → Int) : Double :=
  Double.ofInt ((r.generations.map number).foldl (· + ·) 0)

def coreGauges (number : Nat) : List Double → List (String × Double)
  | [] => []
  | load :: rest =>
      ("CPUutilization" ++ Text.ofInt number, load) :: coreGauges (number + 1) rest

def gauges (r : Readings) : List (String × Double) :=
  [("ProcessRSS", Double.ofInt r.residentMemory),
   ("ProcessVMS", Double.ofInt r.virtualMemory),
   ("ProcessCPUPercent", r.cpuPercent),
   ("ProcessThreads", Double.ofInt r.threads)]
  ++ (r.openFiles.map fun n => ("ProcessOpenFiles", Double.ofInt n)).toList
  ++ [("GCGen0Count", Double.ofInt r.objects.1),
      ("GCGen1Count", Double.ofInt r.objects.2.1),
      ("GCGen2Count", Double.ofInt r.objects.2.2),
      ("GCCollections", r.sum Generation.collections),
      ("GCCollected", r.sum Generation.collected),
      ("GCUncollectable", r.sum Generation.uncollectable),
      ("TotalMemory", Double.ofInt r.totalMemory),
      ("FreeMemory", Double.ofInt r.availableMemory)]
  ++ coreGauges 1 r.cores
  ++ [("RandomValue", r.random)]

end Readings
end Telemetry.Agent
