import ContentAccess.Time.Directive
import ContentAccess.Time.Resolution

/-!
# Reading timestamps

A timestamp is read by a format, and where that fails in the common form
`2024-06-01T12:00:00.5+02:00`.
-/

namespace ContentAccess
namespace Time

/-- The directives of the common form of timestamps. -/
def commonForm : List Directive :=
  [.digits (.field .year) 4, .literal '-', .digits (.field .month) 2, .literal '-',
   .digits (.field .day) 2, .dayTimeMark, .digits .hour 2, .literal ':',
   .digits (.field .minute) 2, .literal ':', .digits (.field .second) 2, .fraction none,
   .offset .strict]

/-- Reads a timestamp by a list of directives. -/
def readBy? (directives : List Directive) (text : String) : Option Instant :=
  (Directive.readAll? directives text.toList []).bind Fields.instant?

end Time

/-- Reads a timestamp by a format, or else in the common form. -/
def Instant.read? (format text : String) : Option Instant :=
  ((Time.Directive.readFormat? format).bind fun directives => Time.readBy? directives text).or
    (Time.readBy? Time.commonForm text)

end ContentAccess
