import LiterateConfig.Pattern.Reader

/-!
# What a plain text means

A plain text is a truth value, a number, nothing, a moment or one of the two
special keys when it has the form of one; otherwise it is just a text. The forms
are patterns, tried in order.
-/
namespace LiterateConfig.Yaml

/-- The kinds of data that a tag can name. -/
inductive Kind where
  | nothing
  | truth
  | int
  | float
  | text
  | binary
  | moment
  | sequence
  | mapping
  | set
  /-- A sequence of single pairs. -/
  | pairs
  /-- The key that takes over the pairs of other mappings. -/
  | merge
  /-- The key of a mapping that stands for a single value. -/
  | value
  | unknown
  deriving DecidableEq, Repr

/-- What the standard tags start with. -/
def standardTags : String := "tag:yaml.org,2002:"

/-- The kind that a full tag names. -/
def Kind.ofTag (tag : String) : Kind :=
  let names : List (String × Kind) := [
    ("null", .nothing), ("bool", .truth), ("int", .int), ("float", .float), ("str", .text),
    ("binary", .binary), ("timestamp", .moment), ("seq", .sequence), ("map", .mapping), ("set", .set),
    ("omap", .pairs), ("pairs", .pairs), ("merge", .merge), ("value", .value)]
  (names.find? fun p => standardTags ++ p.1 == tag).elim .unknown Prod.snd

/-- The forms of plain texts that mean something else than a text. -/
def forms : List (Kind × String) := [
  (.truth, "^(?:yes|Yes|YES|no|No|NO|true|True|TRUE|false|False|FALSE|on|On|ON|off|Off|OFF)$"),
  (.float,
    "^(?:[-+]?(?:[0-9][0-9_]*)\\.[0-9_]*(?:[eE][-+][0-9]+)?|\\.[0-9][0-9_]*(?:[eE][-+][0-9]+)?" ++
      "|[-+]?[0-9][0-9_]*(?::[0-5]?[0-9])+\\.[0-9_]*|[-+]?\\.(?:inf|Inf|INF)|\\.(?:nan|NaN|NAN))$"),
  (.int,
    "^(?:[-+]?0b[0-1_]+|[-+]?0[0-7_]+|[-+]?(?:0|[1-9][0-9_]*)|[-+]?0x[0-9a-fA-F_]+" ++
      "|[-+]?[1-9][0-9_]*(?::[0-5]?[0-9])+)$"),
  (.merge, "^<<$"),
  (.nothing, "^(?:~|null|Null|NULL|)$"),
  (.moment,
    "^(?:[0-9][0-9][0-9][0-9]-[0-9][0-9]-[0-9][0-9]|[0-9][0-9][0-9][0-9]-[0-9][0-9]?-[0-9][0-9]?" ++
      "(?:[Tt]|[ \\t]+)[0-9][0-9]?:[0-9][0-9]:[0-9][0-9](?:\\.[0-9]*)?" ++
      "(?:[ \\t]*(?:Z|[-+][0-9][0-9]?(?::[0-9][0-9])?))?)$"),
  (.value, "^=$")]

/-- Whether a text has a form. -/
def hasForm (form : String) (text : List Char) : Bool :=
  match Pattern.read form with
  | .ok p => p.found text
  | .error _ => false

/-- What a plain text means. -/
def meaning (text : String) : Kind :=
  (forms.find? fun f => hasForm f.2 text.toList).elim .text Prod.fst

end LiterateConfig.Yaml
