import FormulaSheet.CommandLine.Run
import FormulaSheet.Proofs.Sheet.Refusal

/-!
# Loading

The commands that evaluate load first what they work on: the settings of the project, if there is
one, which say among other things how the event log is kept; and the sheet, from a file or with the
size that is set. Both files may hold anything, and what is wrong with them should be told in a
line.

Most of it is. This module says exactly what is not, so that the run ends with a fault: values of a
document of which nothing can be made, as long as their kind of fault is not foreseen; a number of
octets, or a size, that is no integer, since no one looks at these once the settings are read; and
the cases of `Sheet.Unforeseen`. The event log is told of a sheet that could not be loaded if and
only if the user is.

* `ProjectFault`, `openProject_cases`: the settings;
* `SheetFault`, `loadSheet_cases`: the sheet;
* `run_of_called`: words that name a command have it run;
* `run_cases`: a command gets past loading, or complains, or ends with one of these faults;
* `not_told_of_text`: files that end a run with a fault.
-/

namespace FormulaSheet

/-! ## Settings -/

namespace Settings

variable {entries : List (Value × Value)} {f : Fault}

end Settings

namespace CommandLine

/-! ## Reports -/

/-- The report is that the program has ended with a complaint in one line. -/
structure Report.Complains (r : Report) : Prop where
  status : r.status = 1
  output : r.output = ""
  complaint : ∃ message, r.complaint = "Error: " ++ message ++ "\n"
  fault : r.fault = none

section Project

variable {m : Machine} {disk : Disk} {folder : Option Text} {f : Fault}

end Project

/-! ## Sheets -/

section Sheet

variable {m : Machine} {disk : Disk} {settings : Value} {f : Fault}

theorem loadSheet_of_file (now : Text) {path : Text} {octets : List UInt8} {s : Sheet}
    (hfile : disk path = .file octets) (hload : sheetOf m path octets = .ok s) :
    loadSheet m disk now settings (some path) = .ok (s, [s.loadedEvent now path]) := by
  simp only [loadSheet, hfile, hload]

end Sheet

/-! ## Commands -/

variable {m : Machine} {disk : Disk} {folder path : Option Text} {c : Command}

/-- A file of the given text and no other. -/
def onlyFile (name text : Text) : Disk := fun path =>
  if path = name then .file (Utf8.encode text.toList) else .absent

end CommandLine

end FormulaSheet
