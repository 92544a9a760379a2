import Mathlib.Tactic.MkIffOfInductiveProp
import RefBook.Proofs.Text.Margin
import RefBook.Signature
import RefBook.Source.Token

/-! # Documentation records and their printed forms

What a documentation text says of a callable, apart from any dialect: a summary, a longer
description, parameters, a result and exceptions, each in one line. A record can be
printed in every dialect. It is `Neutral` if none of its pieces means something to one
dialect that it does not mean to the others. -/

namespace RefBook.Docstring

open Text (isSpace isBlank trimStart trimEnd unlines dropEndWhile)

/-- A piece of text on one line that starts with a letter. -/
structure Phrase where
  text : List Char
  initial : text.head?.any Char.isAlpha = true := by decide
  noNewline : '\n' ∉ text := by decide
  noTab : '\t' ∉ text := by decide

/-- The characters of names. -/
def isNamePart (c : Char) : Bool := c.isAlphanum || c == '_'

/-- A name of letters, digits and underscores that does not start with a digit. -/
structure Identifier where
  text : List Char
  initial : text.head?.any (fun c => c.isAlpha || c == '_') = true := by decide
  parts : text.all isNamePart = true := by decide

structure Record.Param where
  name : Identifier
  type : Option Phrase
  description : Phrase

structure Record.Raised where
  type : Identifier
  description : Phrase

structure Record where
  summary : Phrase
  body : Option Phrase
  params : List Record.Param
  returns : Option Phrase
  raises : List Record.Raised
  distinct : (params.map (·.name.text)).Nodup := by decide
  free : ∀ p ∈ params, String.ofList p.name.text ∉ Source.keywords := by decide

namespace Record

/-- A line of a section, below the first column. -/
def indented (l : List Char) : List Char := List.replicate 4 ' ' ++ l

/-- The words of a dialect that marks its fields. -/
structure Markup where
  marker : Char
  result : String
  raised : String

def Markup.rest : Markup := ⟨':', "returns", "raises"⟩

def Markup.epydoc : Markup := ⟨'@', "return", "raise"⟩

namespace Markup

def field (m : Markup) (head text : List Char) : List Char :=
  m.marker :: head ++ ':' :: ' ' :: text

/-- The fields of a parameter: its description, and its type if it has one. -/
def paramFields (m : Markup) (p : Param) : List (List Char) :=
  m.field ("param".toList ++ ' ' :: p.name.text) p.description.text ::
    p.type.toList.map fun t => m.field ("type".toList ++ ' ' :: p.name.text) t.text

def fields (m : Markup) (r : Record) : List (List Char) :=
  r.params.flatMap m.paramFields ++
    r.returns.toList.map (fun t => m.field m.result.toList t.text) ++
    r.raises.map fun x => m.field (m.raised.toList ++ ' ' :: x.type.text) x.description.text

end Markup

/-- The name of a parameter, with its type in brackets. -/
def Param.label (p : Param) : List Char :=
  p.name.text ++ p.type.elim [] fun t => " (".toList ++ t.text ++ [')']

/-- A parameter as an item of a titled section. -/
def Param.item (p : Param) : List Char := p.label ++ ": ".toList ++ p.description.text

/-- The key line of a parameter in an underlined section. -/
def Param.key (p : Param) : List Char :=
  p.name.text ++ p.type.elim [] fun t => " : ".toList ++ t.text

def Raised.item (x : Raised) : List Char := x.type.text ++ ": ".toList ++ x.description.text

/-- The title and the lines of each section. -/
def sections (r : Record) : Style → List (String × List (List Char))
  | .rest => [("", Markup.rest.fields r)]
  | .google =>
    [("Args", r.params.map (indented ·.item)),
      ("Returns", r.returns.toList.map (indented ·.text)),
      ("Raises", r.raises.map (indented ·.item))]
  | .numpy =>
    [("Parameters", r.params.flatMap fun p => [p.key, indented p.description.text]),
      ("Returns", r.returns.toList.map (·.text)),
      ("Raises", r.raises.flatMap fun x => [x.type.text, indented x.description.text])]
  | .epydoc => [("", Markup.epydoc.fields r)]

def heading : Style → String → List (List Char)
  | .rest, _ => []
  | .google, title => [title.toList ++ [':']]
  | .numpy, title => [title.toList, List.replicate title.length '-']
  | .epydoc, _ => []

/-- The sections that have lines, each under its title. -/
def paragraphs (r : Record) (style : Style) : List (List (List Char)) :=
  ((r.sections style).filter (!·.2.isEmpty)).map fun s => heading style s.1 ++ s.2

/-- The summary, and the longer description below a blank line. -/
def lead (r : Record) : List (List Char) :=
  r.summary.text :: r.body.toList.flatMap fun b => [[], b.text]

/-- The lines of a record in a dialect, a blank one above each section. -/
def lines (r : Record) (style : Style) : List (List Char) :=
  r.lead ++ (r.paragraphs style).flatMap ([] :: ·)

def print (r : Record) (style : Style) : List Char := unlines (r.lines style)

def Param.doc (p : Param) : ParamDoc :=
  { name := String.ofList p.name.text
    type := p.type.map (String.ofList ·.text)
    default := Rest.trailingDefault? p.description.text
    description := some (String.ofList p.description.text) }

def Raised.doc (x : Raised) : RaisesDoc :=
  ⟨some (String.ofList x.type.text), some (String.ofList x.description.text)⟩

def signature (r : Record) : Signature :=
  { params := Dict.ofList (r.params.map fun p => (p.doc.name, p.doc))
    returns := r.returns.toList.map (String.ofList ·.text)
    raises := r.raises.map Raised.doc
    summary := "\n\n".intercalate
      (String.ofList r.summary.text :: r.body.toList.map (String.ofList ·.text)) }

end Record

def Phrase.Trimmed (p : Phrase) : Prop := trimEnd p.text = p.text

instance (p : Phrase) : Decidable p.Trimmed := inferInstanceAs (Decidable (_ = _))

/-- A longer description that is no section title. -/
@[mk_iff]
structure Phrase.Plain (p : Phrase) : Prop where
  trimmed : p.Trimmed
  untitled : Google.section? p.text = none

/-- A type without a colon and without a mark that makes a parameter optional. -/
@[mk_iff]
structure Phrase.PlainType (p : Phrase) : Prop where
  trimmed : p.Trimmed
  noColon : ':' ∉ p.text
  unmarked : ∀ mark ∈ ["?", ", optional", "(optional)"], ¬ mark.toList <:+ p.text

/-- A description of a parameter that names the same default value to every dialect. -/
@[mk_iff]
structure Phrase.PlainDefault (p : Phrase) : Prop where
  trimmed : p.Trimmed
  google : Google.default? p.text = Rest.trailingDefault? p.text
  numpy : Numpy.default? p.text = Rest.trailingDefault? p.text

/-- A description of a result that cannot be split at a colon. -/
@[mk_iff]
structure Phrase.PlainResult (p : Phrase) : Prop where
  trimmed : p.Trimmed
  noColon : ':' ∉ p.text

/-- A description of an exception without the head of a parameter tag in it. -/
@[mk_iff]
structure Phrase.PlainRaised (p : Phrase) : Prop where
  trimmed : p.Trimmed
  headless : Epydoc.search? Epydoc.paramHead? p.text = none

instance (p : Phrase) : Decidable p.Plain := decidable_of_iff _ p.plain_iff.symm

instance (p : Phrase) : Decidable p.PlainType := decidable_of_iff _ p.plainType_iff.symm

instance (p : Phrase) : Decidable p.PlainDefault := decidable_of_iff _ p.plainDefault_iff.symm

instance (p : Phrase) : Decidable p.PlainResult := decidable_of_iff _ p.plainResult_iff.symm

instance (p : Phrase) : Decidable p.PlainRaised := decidable_of_iff _ p.plainRaised_iff.symm

/-- A record whose pieces mean nothing to one dialect that they do not mean to all. -/
@[mk_iff]
structure Record.Neutral (r : Record) : Prop where
  summary : Google.section? r.summary.text = none
  body : ∀ b ∈ r.body, b.Plain
  types : ∀ p ∈ r.params, ∀ t ∈ p.type, t.PlainType
  descriptions : ∀ p ∈ r.params, p.description.PlainDefault
  returns : ∀ t ∈ r.returns, t.PlainResult
  raises : ∀ x ∈ r.raises, x.description.PlainRaised

instance (r : Record) : Decidable r.Neutral := decidable_of_iff _ r.neutral_iff.symm

end RefBook.Docstring
