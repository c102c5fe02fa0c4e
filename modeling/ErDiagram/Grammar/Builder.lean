import ErDiagram.Grammar.Basic
import ErDiagram.Text.Blank

/-!
Grammars made step by step. A grammar needs an operator, and none of its tokens may be empty or hold
a blank; a key modifier may not hold a comma either. The operators of a built grammar stand in an
order of their own, longer ones first, so they do not depend on the order of the steps. The modifiers
stay as they were given.
-/

namespace ErDiagram

/-- What a token of a grammar is for. -/
inductive TokenRole where
  | operator
  | keyModifier
  | commentMarker
  | directivePrefix
deriving DecidableEq

namespace TokenRole

def name : TokenRole → Text
  | .operator => "cardinality operator".toList
  | .keyModifier => "key modifier".toList
  | .commentMarker => "comment marker".toList
  | .directivePrefix => "directive prefix".toList

end TokenRole

/-- Why a grammar cannot be built. -/
inductive GrammarError where
  | noOperators
  | emptyToken (role : TokenRole)
  | blankInToken (role : TokenRole) (token : Text)
  | commaInModifier (token : Text)
deriving DecidableEq

namespace GrammarError

/-- The cause, in words. -/
def reason : GrammarError → Text
  | .noOperators => "at least one cardinality operator is required".toList
  | .emptyToken role => "empty ".toList ++ role.name
  | .blankInToken role token =>
    role.name ++ " '".toList ++ token ++ "' contains whitespace".toList
  | .commaInModifier token => "key modifier '".toList ++ token ++ "' contains ','".toList

def message (e : GrammarError) : Text :=
  "Invalid grammar: ".toList ++ e.reason

end GrammarError

/-- A grammar under construction. Tokens stand in the order in which they were added. -/
structure GrammarBuilder where
  operators : List Text := []
  keyModifiers : List Text := []
  commentMarker? : Option Text := none
  directivePrefix? : Option Text := none
deriving DecidableEq

namespace GrammarBuilder

def empty : GrammarBuilder := {}

/-- One addition to a builder. A later marker or prefix replaces the one before. -/
inductive Step where
  | operator (token : Text)
  | keyModifier (token : Text)
  | commentMarker (token : Text)
  | directivePrefix (token : Text)

def add (b : GrammarBuilder) : Step → GrammarBuilder
  | .operator token => { b with operators := b.operators ++ [token] }
  | .keyModifier token => { b with keyModifiers := b.keyModifiers ++ [token] }
  | .commentMarker token => { b with commentMarker? := some token }
  | .directivePrefix token => { b with directivePrefix? := some token }

def addAll (b : GrammarBuilder) (steps : List Step) : GrammarBuilder :=
  steps.foldl add b

/-- The marker that a built grammar has. -/
def commentMarker (b : GrammarBuilder) : Text :=
  b.commentMarker?.getD Grammar.standardMarker

/-- The prefix that a built grammar has. -/
def directivePrefix (b : GrammarBuilder) : Text :=
  b.directivePrefix?.getD Grammar.standardPrefix

/-- What is wrong with a token in any role. -/
def tokenFault? (role : TokenRole) (token : Text) : Option GrammarError :=
  if token.isEmpty then some (.emptyToken role)
  else if token.hasBlank then some (.blankInToken role token)
  else none

/-- What is wrong with a key modifier. -/
def modifierFault? (token : Text) : Option GrammarError :=
  match tokenFault? .keyModifier token with
  | some fault => some fault
  | none => if token.contains ',' then some (.commaInModifier token) else none

/-- The first fault: operators before modifiers, before the marker, before the prefix. -/
def fault? (b : GrammarBuilder) : Option GrammarError :=
  if b.operators.isEmpty then some .noOperators
  else
    (b.operators.findSome? (tokenFault? .operator)
      |>.or (b.keyModifiers.findSome? modifierFault?)
      |>.or (tokenFault? .commentMarker b.commentMarker)
      |>.or (tokenFault? .directivePrefix b.directivePrefix))

/-- Whether an operator can stand in front of another: it has more bytes, or as many and the bytes do
not come later in lexicographic order. -/
def precedes (a b : Text) : Bool :=
  b.size < a.size || (a.size == b.size && decide (a.bytes ≤ b.bytes))

def insertOperator (a : Text) : List Text → List Text
  | [] => [a]
  | b :: rest => if precedes a b then a :: b :: rest else b :: insertOperator a rest

def sortOperators : List Text → List Text
  | [] => []
  | a :: rest => insertOperator a (sortOperators rest)

/-- A list without the elements that repeat the one right before them. -/
def dropRepeats : List Text → List Text
  | [] => []
  | [a] => [a]
  | a :: b :: rest => if a = b then dropRepeats (b :: rest) else a :: dropRepeats (b :: rest)

/-- Check the tokens and freeze them. -/
def build (b : GrammarBuilder) : Except GrammarError Grammar :=
  match b.fault? with
  | some fault => .error fault
  | none =>
    .ok {
      operators := dropRepeats (sortOperators b.operators)
      keyModifiers := dropRepeats b.keyModifiers
      commentMarker := b.commentMarker
      directivePrefix := b.directivePrefix }

end GrammarBuilder

/-- A builder that holds the tokens of a grammar. -/
def Grammar.toBuilder (g : Grammar) : GrammarBuilder where
  operators := g.operators
  keyModifiers := g.keyModifiers
  commentMarker? := some g.commentMarker
  directivePrefix? := some g.directivePrefix

end ErDiagram
