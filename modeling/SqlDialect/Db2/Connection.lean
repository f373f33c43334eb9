import SqlDialect.Db2.CastPolicy
import SqlDialect.Db2.Error
import SqlDialect.Timestamp.Format

/-!
# Connections

A `Connection` is a set of settings that can be used, with the cast policy that belongs to them. It
is opened with settings whose date format and cast pattern are valid, and each later change keeps
them so or fails and changes nothing.
-/

namespace SqlDialect.Db2

/-! ## Settings that can be used -/

/-- The policy with a written pattern, or why there is none. -/
def CastPolicy.read (source : String) : Except Error CastPolicy :=
  match CastPolicy.ofSource? source with
  | some policy => .ok policy
  | none => .error (.invalidCastPattern source)

/-- Whether the date format of the settings can be used; the cast pattern is not looked at. -/
def Settings.validate (s : Settings) : Except Error Unit :=
  match s.dateFormat with
  | some format => if Format.isValid format then .ok () else .error (.invalidDateFormat format)
  | none => .ok ()

/-- The cast policy that the settings ask for. -/
def Settings.castPolicy (s : Settings) : Except Error CastPolicy :=
  match s.castPattern with
  | some source => CastPolicy.read source
  | none => .ok .temporal

/-! ## Connections -/

/-- Settings in use. -/
structure Connection where
  settings : Settings := {}
  castPolicy : CastPolicy := .temporal

namespace Connection

/-- The connection with the settings, unless they are invalid. The date format is looked at
first. -/
def open? (s : Settings) : Except Error Connection :=
  match s.validate with
  | .error e => .error e
  | .ok () =>
    match s.castPolicy with
    | .error e => .error e
    | .ok policy => .ok ⟨s, policy⟩

/-- The format in which timestamps are bound. -/
def timestampFormat (c : Connection) : String := c.settings.dateFormat.getD Format.default

/-- Bind timestamps in another format, if it is valid. -/
def setDateFormat (c : Connection) (format : String) : Except Error Connection :=
  if Format.isValid format then
    .ok { c with settings := { c.settings with dateFormat := some format } }
  else .error (.invalidDateFormat format)

/-- Turn the numbering of rows on or off. -/
def setOffsetCompatibility (c : Connection) (on : Bool) : Connection :=
  { c with settings := { c.settings with offsetCompatibility := on } }

/-- Decide by another policy which columns are cast. -/
def withCastPolicy (c : Connection) (policy : CastPolicy) : Connection where
  settings := { c.settings with castPattern := some policy.source }
  castPolicy := policy

end Connection

end SqlDialect.Db2
