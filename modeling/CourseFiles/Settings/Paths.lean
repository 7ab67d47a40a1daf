import CourseFiles.Text.Blank

namespace CourseFiles
namespace Paths

def join (left right : String) : String :=
  if right.toList.head? = some '/' then right
  else if left.toList.getLast?.all (· = '/') then left ++ right
  else left ++ "/" ++ right

def settings (home : String) : String :=
  [".config", "lms-file-picker", "settings.json"].foldl join home

def logDirectory (home : String) : String :=
  [".config", "lms-file-picker", "logs"].foldl join home

def standardStem : String := "lms-file-picker"

-- The log of the given name, blanks around it aside; a blank name stands for the standard one.
def log (home stem : String) : String :=
  let stem := Text.trimmed stem
  join (logDirectory home) ((if stem.isEmpty then standardStem else stem) ++ ".log")

end Paths
end CourseFiles
