import CourseFiles.Messages.Bus

namespace CourseFiles

structure Attempt where
  listener : Nat
  origin : String
  id : String
  deadline : Nat
deriving DecidableEq

namespace Attempt

def reply? (a : Attempt) (ms : List Message) : Option CallOutcome := ms.findSome? (·.reply? a.origin a.id)

-- What has come for the attempt and was not received yet.
def unread (a : Attempt) (b : Bus) : List Message := (b.queue? a.listener).getD []

end Attempt
end CourseFiles
