/-!
# Options: which forms of reference are read, and what becomes of malformed ones
-/

namespace Template

/-- The forms of reference that are recognised. A form that is switched off is ordinary text. -/
structure Forms where
  /-- Recognise `%NAME%`, and `%%` for a percent sign. -/
  percent : Bool := true
  /-- Recognise `$NAME` and `${NAME}`, and `$$` for a dollar sign. -/
  dollar : Bool := true
  deriving DecidableEq, Repr

/-- The forms to recognise and the treatment of malformed references. -/
structure Options extends Forms where
  /-- Fail at the first malformed reference; otherwise malformed references are copied to the output as written. -/
  strict : Bool := true
  deriving DecidableEq, Repr

namespace Options

/-- Every form is recognised, and malformed references are copied. -/
def lenient : Options := { strict := false }

end Options

end Template
