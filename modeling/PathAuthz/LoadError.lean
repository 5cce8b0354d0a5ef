/-
  PathAuthz.LoadError — why a rules text or a groups text is refused.

  - `LineFault`: what is wrong with one line, taken by itself.
  - `GlobFault`: why a glob does not compile.
  - `Referrer`: where a reference to a group or an alias stands.
  - `LoadError`: every cause of refusal, with the names needed to find it.
  - `LoadError.message`: the wording. A glob that does not compile is reported by the
    section and the path segment; why it does not compile is not part of the message.
-/

namespace PathAuthz

inductive LineFault where
  | unterminatedHeader
  | textAfterHeader (line : String)
  | unnamedSection
  | optionOutsideSection (option : String)
  | missingSeparator (line : String)
  | unnamedOption
  deriving DecidableEq, Repr

def LineFault.message : LineFault → String
  | unterminatedHeader => "unterminated section header"
  | textAfterHeader line => s!"unexpected text after section header: '{line}'"
  | unnamedSection => "empty section name"
  | optionOutsideSection option => s!"option '{option}' appears before any section"
  | missingSeparator line => s!"expected 'name = value', found '{line}'"
  | unnamedOption => "empty option name"

inductive GlobFault where
  /-- A bracket expression is no set of characters. -/
  | malformed
  | tooHeavy
  deriving DecidableEq, Repr

/-- The first line of the diagnosis. -/
def GlobFault.title : GlobFault → String
  | malformed => "regex parse error:"
  | tooHeavy => "Compiled regex exceeds size limit of 10485760 bytes."

inductive Referrer where
  | group (name : String)
  | rule (heading : String)
  deriving DecidableEq, Repr

def Referrer.message : Referrer → String
  | group name => s!"group '{name}'"
  | rule heading => s!"section [{heading}]"

inductive LoadError where
  | malformedLine (line : Nat) (fault : LineFault)
  | repeatedSection (heading : String)
  | unknownMarker (heading token : String)
  | unnamedRepo (heading : String)
  | invalidRepo (heading repo : String)
  | pathNotCanonical (heading path : String)
  | unknownSection (heading : String)
  | invalidGlob (heading segment : String) (fault : GlobFault)
  | reservedName (heading name : String)
  | unknownRight (heading option value : String) (found : Char)
  | repeatedGroup (group : String)
  | repeatedAlias (name : String)
  | undefinedAlias (name : String) (referrer : Referrer)
  | undefinedGroup (group : String) (referrer : Referrer)
  | recursiveGroup (group : String)
  | groupsNotAllowed
  deriving DecidableEq, Repr

def LoadError.message : LoadError → String
  | malformedLine line fault => s!"Line {line}: {fault.message}"
  | repeatedSection heading => s!"Section [{heading}] is defined more than once"
  | unknownMarker heading token => s!"Section [{heading}]: expected 'glob' but found '{token}'"
  | unnamedRepo heading => s!"Section [{heading}]: empty repository name"
  | invalidRepo heading repo => s!"Section [{heading}]: invalid repository name '{repo}'"
  | pathNotCanonical heading path => s!"Section [{heading}]: path '{path}' is not canonical"
  | unknownSection heading => s!"Section [{heading}] is not a valid rule, groups or aliases section"
  | invalidGlob heading segment _ => s!"Section [{heading}]: invalid glob segment '{segment}'"
  | reservedName heading name => s!"Section [{heading}]: name '{name}' starts with a reserved character"
  | unknownRight heading option value found =>
    s!"Section [{heading}]: access '{value}' for '{option}' contains invalid character '{found}'"
  | repeatedGroup group => s!"Group '{group}' is defined more than once"
  | repeatedAlias name => s!"Alias '{name}' is defined more than once"
  | undefinedAlias name referrer => s!"Undefined alias '{name}' referenced in {referrer.message}"
  | undefinedGroup group referrer => s!"Undefined group '{group}' referenced in {referrer.message}"
  | recursiveGroup group => s!"Recursive definition of group '{group}'"
  | groupsNotAllowed => "The rules file must not define [groups] when a global groups file is used"

end PathAuthz
