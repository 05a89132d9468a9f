import EventLog.Text.Blank
import EventLog.Text.LowerCase

/-!
# Queries

A query is a list of terms, all of which a record must meet. It is typed as words: a word such as
step:load names what its value is compared with, and every other word is free text, colons
included.
-/

namespace EventLog

/-- What the value of a term is compared with. -/
inductive Token where
  /-- The step of the record is one of the relevant steps. -/
  | scope
  /-- The step of the record has the value as its key. -/
  | step
  /-- The event type of the record has the value as its display name. -/
  | eventType
  /-- The message contains the value, ignoring case. -/
  | text
deriving DecidableEq, Repr

namespace Token

/-- The token of a name in any case. An unknown name stands for free text. -/
def ofName (name : List Char) : Token :=
  match String.ofList (Text.lower name) with
  | "query" => scope
  | "scope" => scope
  | "step" => step
  | "type" => eventType
  | _ => text

/-- The name that a term of this token begins with. Free text has none. -/
def name? : Token → Option String
  | scope => some "query"
  | step => some "step"
  | eventType => some "type"
  | text => none

end Token

/-- One condition of a query. -/
structure Term where
  token : Token
  value : String
deriving DecidableEq, Repr

namespace Term

/-- The term of one typed word: a known name before the first colon takes everything after that
    colon as its value, and any other word is free text as a whole. -/
def ofWord (word : List Char) : Term :=
  match word.dropWhile (· != ':') with
  | [] => ⟨.text, String.ofList word⟩
  | _ :: value =>
      match Token.ofName (word.takeWhile (· != ':')) with
      | .text => ⟨.text, String.ofList word⟩
      | token => ⟨token, String.ofList value⟩

def render (term : Term) : String :=
  match term.token.name? with
  | some name => name ++ ":" ++ term.value
  | none => term.value

end Term

def parseQuery (input : String) : List Term := (Text.words input.toList).map Term.ofWord

/-- The terms of a query as one would type them, a space between two. -/
def renderQuery (terms : List Term) : String := " ".intercalate (terms.map Term.render)

end EventLog
