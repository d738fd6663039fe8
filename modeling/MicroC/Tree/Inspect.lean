import MicroC.Numeral
import MicroC.Text.Quoted
import MicroC.Tree

/-! # Inspecting trees

A tree has two one-line forms. The inspected form shows what a value is: source nodes show their kind
and where they start, all other nodes their fields by name, and texts stand in quotes. The displayed
form is for the middle of a sentence: a text stands for itself and a location is file, line and
column; all else is as when inspected. A tree has neither form if an integer that it shows has too many
digits, or if what stands as the location of a source node has no line or no column.
-/

namespace MicroC.Tree

/-- Why a tree has no one-line form. -/
inductive WriteFault where
  | numeral (fault : NumeralFault)
  /-- A value without this field stands as a location. -/
  | noField (kind field : String)
  deriving Repr, DecidableEq

/-- The one-line forms of a tree. -/
inductive Form where
  | inspected
  | displayed
  deriving Repr, DecidableEq

/-- A node with its fields. -/
def writeNode (kind : String) (fields : List (String × String)) : String :=
  kind ++ "(" ++ ", ".intercalate (fields.map fun (name, value) => name ++ "=" ++ value) ++ ")"

/-- A sequence; a single item is followed by a comma. -/
def writeTuple : List String → String
  | [item] => "(" ++ item ++ ",)"
  | items => "(" ++ ", ".intercalate items ++ ")"

/-- A location in either form, of parts in the same form. -/
def writePlace (file line column : String) : Form → String
  | .inspected => writeNode "SourceLocation" [("filename", file), ("line", line), ("column", column)]
  | .displayed => file ++ ":" ++ line ++ ":" ++ column

mutual

/-- A tree in one of its one-line forms. -/
def write (form : Form) : Tree → Except WriteFault String
  | .nothing => .ok "None"
  | .truth value => .ok (if value then "True" else "False")
  | .number value => (Numeral.write value).mapError .numeral
  | .text value => .ok (match form with
      | .inspected => Text.quoted value
      | .displayed => value)
  | .tuple items => do return writeTuple (← writeAll items)
  | .place file line column => do
      let file ← write form file
      let line ← write form line
      let column ← write form column
      return writePlace file line column form
  | .plain kind _ => .ok kind
  | .identifier _ location => writeSource "Identifier" location
  | .integerConstant _ location => writeSource "IntegerConstant" location
  | .constantExpression _ location => writeSource "ConstantExpression" location
  | .returnStatement _ location => writeSource "ReturnStatement" location
  | .function _ _ _ _ location => writeSource "FunctionNode" location
  | .program _ location => writeSource "ProgramNode" location
  | .immediate value => do return writeNode "Immediate" [("value", ← write .inspected value)]
  | .register name => do return writeNode "Register" [("name", ← write .inspected name)]
  | .mov source destination => do
      let source ← write .inspected source
      let destination ← write .inspected destination
      return writeNode "Mov" [("source", source), ("destination", destination)]
  | .ret => .ok (writeNode "Ret" [])
  | .machineFunction name instructions => do
      let name ← write .inspected name
      let instructions ← write .inspected instructions
      return writeNode "AsmFunction" [("name", name), ("instructions", instructions)]
  | .machineProgram definition => do
      return writeNode "AsmProgram" [("function", ← write .inspected definition)]
  | .foreign kind fields _ => do return writeNode kind (← writeFields fields)

/-- The items of a sequence, in order. -/
def writeAll : List Tree → Except WriteFault (List String)
  | [] => .ok []
  | tree :: trees => do
      let first ← write .inspected tree
      let rest ← writeAll trees
      return first :: rest

/-- The fields of a node, in order. -/
def writeFields : List (String × Tree) → Except WriteFault (List (String × String))
  | [] => .ok []
  | (name, tree) :: fields => do
      let value ← write .inspected tree
      let rest ← writeFields fields
      return (name, value) :: rest

/-- The value of the first field of that name, in a sentence. -/
def writeField (kind name : String) : List (String × Tree) → Except WriteFault String
  | [] => .error (.noField kind name)
  | (label, tree) :: fields =>
      if name == label then write .displayed tree else writeField kind name fields

/-- A source node: its kind, and its line and column unless its location is absent. Any value that is
    there is asked for the two, the line before the column. -/
def writeSource (kind : String) : Tree → Except WriteFault String
  | .nothing => .ok kind
  | .place _ line column => do
      let line ← write .displayed line
      let column ← write .displayed column
      return kind ++ "@" ++ line ++ ":" ++ column
  | .foreign other fields _ => do
      let line ← writeField other "line" fields
      let column ← writeField other "column" fields
      return kind ++ "@" ++ line ++ ":" ++ column
  | tree => .error (.noField tree.kind "line")

end

/-- The one-line form that shows what a tree is. -/
def inspect (tree : Tree) : Except WriteFault String :=
  tree.write .inspected

/-- The one-line form of a tree inside a sentence. -/
def display (tree : Tree) : Except WriteFault String :=
  tree.write .displayed

end MicroC.Tree
