import FluentBuilder.Layout.AttributeLayout
import FluentBuilder.Layout.Bracing

/-!
# The layout of trees

Every phrase of source text is written with the usual spacing, and breaks where it does not fit on
its line: lists inside brackets one entry to a line, chains of accesses one access to a line,
operators in front of their right operand.

* `Place`: where an expression stands, on which its layout depends.
* `typeLayout`, `pathLayout`, `exprLayout`, `patternLayout`, `statementLayout`, `itemLayout`: the
  documents of trees.
-/

namespace FluentBuilder.Layout

open FluentBuilder.Code

/-! ### Parts without phrases inside -/

/-- The layout of a lifetime. -/
def lifetimeText (name : String) : String :=
  (Token.lifetime name).text

/-- The layout of a calling convention. -/
def linkageLayout : Linkage → List Document
  | .native => []
  | .foreign none => [.text "extern "]
  | .foreign (some name) => [.text "extern ", .text name, .text " "]

/-- The layout of a visibility. -/
def visibilityLayout : ItemVisibility → List Document
  | .inherited => []
  | .everywhere => [.text "pub "]
  | .restricted _ path =>
    [.text "pub("] ++ textIf (!path.isPlace) "in " ++ [.text (modulePathText path), .text ") "]

/-- The layout of a label in front of a loop or block. -/
def labelLayout : Option String → List Document
  | some name => [.text (lifetimeText name), .text ": "]
  | none => []

/-- The layout of the words in front of a function, up to its name. -/
def functionHeadLayout (head : FunctionHead) : List Document :=
  textIf head.isDefault "default " ++ textIf head.isConst "const " ++ textIf head.isAsync "async "
    ++ textIf head.isUnsafe "unsafe " ++ linkageLayout head.linkage
    ++ [.text "fn ", .text head.name]

/-- The layout of the words in front of a closure. -/
def closureHeadLayout (head : ClosureHead) : List Document :=
  textIf head.isConst "const " ++ textIf head.isStatic "static " ++ textIf head.isAsync "async "
    ++ textIf head.isMove "move "

/-- The layout of the name or position of a field. -/
def memberText : Member → String
  | .named name => name
  | .position index => toString index

/-- The layout of the label to which a jump goes. -/
def jumpLabel : Option String → List Document
  | some name => [.text " ", .text (lifetimeText name)]
  | none => []

/-- What stands between a path and a name behind it. -/
def linkLayout : Path → List Document
  | .root _ => []
  | _ => [.text "::"]

/-- Whether the tree of an import ends in braces. -/
def endsInGroup : UseTree → Bool
  | .path _ rest => endsInGroup rest
  | .group _ _ => true
  | _ => false

mutual
/-- The layout of the tree of an import. -/
def useTreeLayout : UseTree → List Document
  | .path name rest => [.text name, .text "::"] ++ useTreeLayout rest
  | .name name => [.text name]
  | .rename name newName => [.text name, .text " as ", .text newName]
  | .glob => [.text "*"]
  | .group trees _ =>
    [.text "\x7b"] ++ indented
    (outdent ([softBreak] ++ box 0 false (useTreesLayout trees) ++ [commaBreak]))
      ++ [.text "\x7d"]

/-- The layout of the trees in the braces of an import. -/
def useTreesLayout : List UseTree → List Document
  | [] => []
  | tree :: rest =>
    useTreeLayout tree
      ++ (if rest.isEmpty then []
        else [.text ",", if endsInGroup tree then hardBreak else softSpace])
      ++ useTreesLayout rest
end

/-! ### Lists of phrases -/

/-- Elements in parentheses; a single element keeps a comma. -/
def tupleLayout (elements : List (List Document)) : List Document :=
  match elements with
  | [single] =>
    [.text "("] ++ indented (outdent ([softBreak] ++ single ++ [.text ",", softBreak]))
      ++ [.text ")"]
  | elements => enclosed "(" ")" elements

/-- Bounds in a phrase that does not break between them. -/
def boundsOnLine (bounds : List (List Document)) : List Document :=
  joined [.text " + "] bounds

/-- Bounds in a phrase that breaks in front of each but the first. -/
def boundsOnLines (bounds : List (List Document)) : List Document :=
  joined [softSpace, .text "+ "] bounds

/-- Pieces behind a lead, if there are any. -/
def ledBy (lead : String) (pieces : List Document) : List Document :=
  match pieces with
  | [] => []
  | pieces => .text lead :: pieces

/-- The entries between angle brackets, each with a mark on lifetimes, lifetimes first. -/
def inOrder (entries : List (Bool × List Document)) : List (List Document) :=
  ((entries.filter (·.1)) ++ (entries.filter (!·.1))).map (·.2)

/-- The arguments between angle brackets, of which there is at least one. -/
def angleLayout (opening : String) (entries : List (Bool × List Document)) : List Document :=
  match entries with
  | [] => []
  | entries => enclosed opening ">" (inOrder entries)

/-- The generic parameters of an item. -/
def genericParamsLayout (entries : List (Bool × List Document)) : List Document :=
  match entries with
  | [] => []
  | entries =>
    [.text "<"] ++ box 0 true (outdent (softBreak :: listed commaBreak (inOrder entries)))
      ++ [.text ">"]

/-- The parameters of a binder. -/
def binderLayout (entries : List (Bool × List Document)) : List Document :=
  [.text "for<"] ++ joined [.text ", "] (entries.map (·.2)) ++ [.text "> "]

/-- The place behind the last of several parameters. -/
def closingOfParams (params : List Pattern) : Document :=
  if params.getLast?.any Pattern.isVariadic then softBreak else commaBreak

/-- Entries in braces behind a path; the place behind the last one carries a comma unless that entry
stands for others. -/
def structLayout (path : List Document) (open? : Bool) (entries : List (List Document)) :
    List Document :=
  path ++ [.text " \x7b"]
    ++ outdent (openSpace :: listed (if open? then softSpace else commaSpace) entries)

/-- Pieces without a line longer than the given width: they break if they are wider. -/
def withMaxWidth (width : Nat) (pieces : List Document) : List Document :=
  if width < widthOf pieces then pieces ++ [.strut] else pieces

/-! ### Where clauses -/

/-- A where clause in front of braces, with a line for each condition. -/
def whereForBody (conditions : List (List Document)) : List Document :=
  match conditions with
  | [] => [.text " "]
  | conditions =>
    outdent [hardBreak] ++ [.text "where", hardBreak]
      ++ outdent (conditions.flatMap (· ++ [.text ",", hardBreak]))

/-- A where clause in front of a semicolon, with a line for each condition. -/
def whereForEnd (conditions : List (List Document)) : List Document :=
  match conditions with
  | [] => [.text ";"]
  | conditions =>
    outdent [hardBreak] ++ [.text "where", hardBreak] ++ joined [.text ",", hardBreak] conditions
      ++ [.text ";"]

/-- A where clause in the middle of a line. -/
def whereOnLine (conditions : List (List Document)) : List Document :=
  match conditions with
  | [] => [.text " "]
  | conditions =>
    outdent [softSpace] ++ [.text "where", softSpace] ++ outdent (listed commaSpace conditions)

/-- A where clause at the end of a line. -/
def whereAtEnd (conditions : List (List Document)) : List Document :=
  match conditions with
  | [] => [.text ";"]
  | conditions =>
    outdent [softSpace] ++ [.text "where", softSpace] ++ joined [.text ",", softSpace] conditions
      ++ [.text ";"]

/-! ### Blocks -/

/-- Lines in braces that close in front of the line they opened on; the braces stand for themselves
when there are no lines. -/
def bracedLines (lines : List Document) : List Document :=
  [.text "\x7b"] ++ indented (outdent (openBreak :: lines)) ++ [.text "\x7d"]

/-- Lines in braces at the end of a phrase. -/
def trailingLines (lines : List Document) : List Document :=
  [.text "\x7b", noBreak] ++ indented (outdent (openBreak :: lines)) ++ [.text "\x7d"]

/-- The content of a block that may stand on one line. -/
def smallBlock (attributes : List Document) (empty : Bool) (content : List Document) :
    List Document :=
  if attributes.isEmpty && empty then [.text "\x7b\x7d"]
  else [.text "\x7b"] ++ outdent (softSpace :: attributes ++ content) ++ [.text "\x7d"]

/-- An item with lines in braces. -/
def bodiedItem (head lines : List Document) : List Document :=
  indented (head ++ [.text "\x7b"] ++ outdent (openBreak :: lines)) ++ [.text "\x7d", hardBreak]

/-- An item on a line. -/
def lineItem (indent : Int) (pieces : List Document) : List Document :=
  box indent true pieces ++ [hardBreak]

/-- The words in front of a block. -/
def blockWords : BlockKind → List Document
  | .plain => []
  | .unguarded => [.text "unsafe "]
  | .constant => [.text "const "]
  | .attempt => [.text "try "]
  | .suspended isMove => [.text "async "] ++ textIf isMove "move "
  | .loop => [.text "loop "]

/-! ### Where expressions stand -/

/-- Where an expression stands. -/
inductive Place where
  | inside
  /-- At the start of a line. -/
  | lineStart
  /-- In front of an access; `starts` says whether the chain of accesses starts a line. -/
  | base (starts : Bool)
  /-- Behind the arrow of an arm; `unwraps` says whether a block around a single expression
  vanishes. -/
  | arm (unwraps : Bool)
  /-- Behind the `else` of a conditional. -/
  | otherwise
  deriving DecidableEq, Repr

/-- Whether a place is behind the arrow of an arm. -/
def Place.isArm : Place → Bool
  | .arm _ => true
  | _ => false

/-- Whether a chain of accesses at a place starts a line. -/
def Place.starts : Place → Bool
  | .lineStart => true
  | .base starts => starts
  | .arm _ => true
  | _ => false

/-- The place of a phrase with which a phrase at the given place starts. -/
def Place.first : Place → Place
  | .arm _ => .lineStart
  | .otherwise => .inside
  | place => place

/-- The place of the function that is called at the given place. -/
def Place.function : Place → Place
  | .base _ => .base false
  | place => place.first

/-- Whether an access continues an expression rather than standing beside it. -/
def isAccess : Expr → Bool
  | .await _ => true
  | .call .. => true
  | .field .. => true
  | .index .. => true
  | .methodCall .. => true
  | .attempt _ => true
  | _ => false

/-- Whether an expression starts a chain of accesses unless it continues one. -/
def isChain : Expr → Bool
  | .await _ => true
  | .field .. => true
  | .methodCall .. => true
  | _ => false

/-- Whether the body of an arm stands in braces by itself. -/
def isArmBlock (e : Expr) : Bool :=
  match e with
  | .tuple [] _ => true
  | e =>
    match e.bare with
    | .block .plain _ _ _ => true
    | _ => false

/-- The body of an arm that gets braces if it does not fit on the line; parentheses if a statement
cannot start with it. -/
def armBody (e : Expr) (pieces : List Document) : List Document :=
  let braced := e.startsStatement
  let closing : Break :=
    { offset := -indentStep
      before := if braced && e.addsSemicolon then ";" else ""
      behind := if braced then "\x7d" else "),"
      whole := if e.isComplete then "" else "," }
  noBreak :: indented ([.place { before := if braced then "\x7b" else "(" }] ++ pieces
    ++ [.place closing])

/-- The body of a closure, likewise. -/
def closureBody (e : Expr) (pieces : List Document) : List Document :=
  if e.isClosureBody then pieces
  else
    let braced := e.startsStatement
    let closing : Break :=
      { offset := -indentStep
        before := if braced && e.addsSemicolon then ";" else ""
        behind := if braced then "\x7d" else ")" }
    indented ([.place { before := if braced then "\x7b" else "(" }] ++ pieces ++ [.place closing])

/-- The layout of an expression at a place, given the pieces of the expression by itself. -/
def placed (place : Place) (e : Expr) (pieces : List Document) : List Document :=
  match place with
  | .base _ => if isAccess e then pieces else box (-indentStep) true pieces
  | .arm _ =>
    if isArmBlock e then pieces
    else armBody e (if isChain e then indented pieces else pieces)
  | _ => if isChain e then indented pieces else pieces

/-- The break in front of an access, unless a short name at the start of a line precedes it.  A
number that ends in a point keeps a space from the point of the access. -/
def accessBreak (place : Place) (base : Expr) : List Document :=
  if place.starts && base.isShortName then []
  else if base.endsInPoint then [softSpace]
  else [softBreak]

/-- The arguments of a call; a single one that brings its own brackets stands close to the
parentheses. -/
def callLayout (arguments : List Expr) (layouts : List (List Document)) : List Document :=
  match arguments, layouts with
  | [single], [layout] =>
    if single.isBlocklike then [.text "("] ++ layout ++ [.text ")"] else enclosed "(" ")" layouts
  | _, _ => enclosed "(" ")" layouts

/-- The elements of an array; plain literals fill their lines. -/
def arrayLayout (elements : List Expr) (layouts : List (List Document)) : List Document :=
  if elements.isEmpty then [.text "[]"]
  else if elements.all Expr.isCompact then
    [.text "["]
      ++ indented (outdent ([softBreak] ++ box 0 false (joined [.text ",", softSpace] layouts)
        ++ [commaBreak]))
      ++ [.text "]"]
  else enclosed "[" "]" layouts

/-- An operator between operands that breaks in front of the operator. -/
def operation (left : List Document) (operator : String) (right : List Document) : List Document :=
  box indentStep false (box (-indentStep) false left ++ [softSpace, .text operator, .text " "]
    ++ right)

/-- A condition in front of a brace. -/
def conditionFrame (condition : Expr) (pieces : List Document) : List Document :=
  box 0 true (pieces ++ [if condition.wrapsBeforeBrace then softSpace else .text " "])

/-- A block, given its content. -/
def blockLayout (place : Place) (kind : BlockKind) (label : Option String)
    (attributes : List Document) (empty : Bool) (content : List Document) : List Document :=
  match kind, place with
  | .loop, _ => labelLayout label ++ blockWords kind ++ bracedLines (attributes ++ content)
  | .plain, .arm _ => labelLayout label ++ trailingLines (attributes ++ content)
  | .plain, .otherwise => smallBlock [] empty content
  | _, _ => labelLayout label ++ blockWords kind ++ indented (smallBlock attributes empty content)

/-- Whether the content of a block has a line for each statement in any case. -/
def hasLines (kind : BlockKind) (place : Place) : Bool :=
  match kind, place with
  | .loop, _ => true
  | .plain, .arm _ => true
  | _, _ => false

/-- An expression as a statement. -/
def statementLine (e : Expr) (semicolon : Bool) (pieces : List Document) : List Document :=
  box 0 false (pieces ++ textIf (if semicolon then !e.dropsSemicolon else e.addsSemicolon) ";")
    ++ [hardBreak]

/-- The single expression of a block that may stand on one line. -/
def smallValue (pieces : List Document) : List Document :=
  box 0 false pieces ++ [softSpace]

/-- A closure with the pieces of its parameters, its result and its body. -/
def closureLayout (head : List Document) (inputs : List (List Document)) (output : List Document)
    (body : Expr) (pieces : List Document) : List Document :=
  let params :=
    [.text "|"] ++ (if inputs.isEmpty then []
      else softBreak :: joined [.text ",", softSpace] inputs)
  box 0 false (head
    ++ (if output.isEmpty then
      indented (outdent (params ++ [.text "|", softSpace])) ++ [noBreak] ++ closureBody body pieces
    else
      indented (params ++ (if inputs.isEmpty then [] else outdent [commaBreak]) ++ [.text "|"])
        ++ output
        ++ [.text " ", noBreak] ++ pieces))

/-- The head of a function with its parameters and result. -/
def signatureLayout (head : FunctionHead) (generics : List (Bool × List Document))
    (params : List Pattern) (layouts : List (List Document)) (output : List Document) :
    List Document :=
  functionHeadLayout head ++ genericParamsLayout generics ++ [.text "(", noBreak]
    ++ box 0 true (outdent (softBreak :: listed (closingOfParams params) layouts)) ++ [.text ")"]
    ++ box (-indentStep) true output

/-! ### Phrases -/

mutual
/-- The layout of a type. -/
def typeLayout : TypeExpr → List Document
  | .path path => pathLayout false path
  | .slice element => [.text "["] ++ typeLayout element ++ [.text "]"]
  | .array element length =>
    [.text "["] ++ typeLayout element ++ [.text "; "] ++ exprLayout .inside length ++ [.text "]"]
  | .tuple elements _ => tupleLayout (typesLayout elements)
  | .paren inner => [.text "("] ++ typeLayout inner ++ [.text ")"]
  | .reference lifetime mutable target =>
    [.text "&"] ++ (match lifetime with
      | some name => [.text (lifetimeText name), .text " "]
      | none => [])
      ++ textIf mutable "mut " ++ typeLayout target
  | .pointer mutable target =>
    [.text "*", .text (if mutable then "mut " else "const ")] ++ typeLayout target
  | .never => [.text "!"]
  | .infer => [.text "_"]
  | .function isUnsafe linkage params _ output =>
    textIf isUnsafe "unsafe " ++ linkageLayout linkage
      ++ bracketed "fn(" ")" (closingOfParams params) (patternsLayout params) ++ outputLayout output
  | .forAll params _ type => binderLayout (genericsLayout params) ++ typeLayout type
  | .traitObject _ bounds _ => [.text "dyn "] ++ boundsOnLine (boundsLayout bounds)
  | .implTrait bounds _ => [.text "impl "] ++ boundsOnLine (boundsLayout bounds)
  | .macroCall call => macroCallLayout call
  | .verbatim tokens => [.text (tokensText tokens)]

/-- The layout of each type of a list. -/
def typesLayout : List TypeExpr → List (List Document)
  | [] => []
  | type :: rest => typeLayout type :: typesLayout rest

/-- The layout of a return type. -/
def outputLayout : Option TypeExpr → List Document
  | some type => [.text " -> "] ++ typeLayout type
  | none => []

/-- The layout of a path; in an expression a double colon precedes arguments. -/
def pathLayout (inExpr : Bool) : Path → List Document
  | .root leading => textIf leading "::"
  | .ofType type => [.text "<"] ++ typeLayout type ++ [.text ">"]
  | .ofTypeAs type asTrait =>
    [.text "<"] ++ typeLayout type ++ [.text " as "] ++ pathLayout false asTrait ++ [.text ">"]
  | .plain before name => pathLayout inExpr before ++ linkLayout before ++ [.text name]
  | .angle before name _ arguments _ =>
    pathLayout inExpr before ++ linkLayout before ++ [.text name]
      ++ angleLayout (if inExpr then "::<" else "<") (genericsLayout arguments)
  | .call before name inputs _ output =>
    pathLayout inExpr before ++ linkLayout before ++ [.text name]
      ++ indented ([.text "("] ++ outdent (softBreak :: listed commaBreak (typesLayout inputs))
        ++ [.text ")"]
        ++ outputLayout output)

/-- The layout of a bound. -/
def boundLayout : Bound → List Document
  | .lifetime name => [.text (lifetimeText name)]
  | .trait maybe path => textIf maybe "?" ++ pathLayout false path
  | .forAll params _ bound => binderLayout (genericsLayout params) ++ boundLayout bound
  | .paren inner => [.text "("] ++ boundLayout inner ++ [.text ")"]
  | .captures names _ => [.text "use<", .text (", ".intercalate (names.map Token.text)), .text ">"]
  | .verbatim tokens => [.text (tokensText tokens)]

/-- The layout of each bound of a list. -/
def boundsLayout : List Bound → List (List Document)
  | [] => []
  | bound :: rest => boundLayout bound :: boundsLayout rest

/-- The layout of an argument, parameter or condition, with a mark on lifetimes. -/
def genericLayout : Generic → Bool × List Document
  | .lifetime name => (true, [.text (lifetimeText name)])
  | .type type => (false, typeLayout type)
  | .const value => (false, exprLayout .inside value)
  | .equation name type => (false, pathLayout false name ++ [.text " = "] ++ typeLayout type)
  | .constEquation name value =>
    (false, pathLayout false name ++ [.text " = "] ++ exprLayout .inside value)
  | .constraint name bounds _ =>
    (false, pathLayout false name
      ++ box indentStep false (ledBy ": " (boundsOnLines (boundsLayout bounds))))
  | .lifetimeParam name bounds _ =>
    (true, [.text (lifetimeText name)]
      ++ ledBy ": " (boundsOnLine (bounds.map fun b => [.text (lifetimeText b)])))
  | .typeParam name bounds _ default =>
    (false, [.text name] ++ box indentStep false (ledBy ": " (boundsOnLines (boundsLayout bounds))
      ++ (match default with
        | some type => [softSpace, .text "= "] ++ typeLayout type
        | none => [])))
  | .constParam name type default =>
    (false, [.text "const ", .text name, .text ": "] ++ typeLayout type
      ++ (match default with
        | some value => [.text " = "] ++ exprLayout .inside value
        | none => []))
  | .attributed attributes param =>
    let (isLifetime, pieces) := genericLayout param
    (isLifetime, metasLayout false attributes ++ pieces)
  | .lifetimeCondition name bounds _ =>
    (true, [.text (lifetimeText name), .text ":"]
      ++ box indentStep false
        (ledBy " " (boundsOnLines (bounds.map fun b => [.text (lifetimeText b)]))))
  | .condition type bounds _ =>
    (false, typeLayout type ++ [.text ":"]
      ++ box (if bounds.length == 1 then 0 else indentStep) false
        (ledBy " " (boundsOnLines (boundsLayout bounds))))

/-- The layout of each argument, parameter or condition of a list, with a mark on lifetimes. -/
def genericsLayout : List Generic → List (Bool × List Document)
  | [] => []
  | entry :: rest => genericLayout entry :: genericsLayout rest

/-- The layout of the generic parameters of an item, with marks on lifetimes. -/
def paramsOf : Generics → List (Bool × List Document)
  | .mk params _ _ _ => genericsLayout params

/-- The layout of the conditions of an item. -/
def conditionsOf : Generics → List (List Document)
  | .mk _ _ conditions _ => (genericsLayout conditions).map (·.2)

/-- The layout of an attribute, in front of something or inside it. -/
def metaLayout (inner : Bool) : Meta → List Document
  | .bare path => attributeFrame inner [.text (modulePathText path)]
  | .list path arguments =>
    attributeFrame inner ([.text (modulePathText path)] ++ attributeArgumentsLayout arguments)
  | .assigned path value =>
    (comment? inner path value).getD
      (attributeFrame inner
        ([.text (modulePathText path), .text " = "] ++ exprLayout .inside value))

/-- The layout of attributes. -/
def metasLayout (inner : Bool) : List Meta → List Document
  | [] => []
  | m :: rest => metaLayout inner m ++ metasLayout inner rest

/-- The layout of an expression at a place. -/
def exprLayout (place : Place) (e : Expr) : List Document :=
  placed place e (match e with
  | .literal text => [.text text]
  | .path path => pathLayout true path
  | .infer => [.text "_"]
  | .unary operator operand => [.text (String.ofList [operator])] ++ exprLayout .inside operand
  | .reference mutable operand => [.text "&"] ++ textIf mutable "mut " ++ exprLayout .inside operand
  | .address mutable operand =>
    [.text "&raw ", .text (if mutable then "mut " else "const ")] ++ exprLayout .inside operand
  | .binary operator left right =>
    operation (exprLayout .inside left) operator (exprLayout .inside right)
  | .assign left right =>
    box 0 false (exprLayout .inside left ++ [.text " = ", noBreak] ++ exprLayout .inside right)
  | .cast operand type => operation (exprLayout .inside operand) "as" (typeLayout type)
  | .range start closed stop =>
    valueLayout "" start ++ textIf (start.any Expr.endsInPoint) " "
      ++ [.text (if closed then "..=" else "..")]
      ++ textIf (!closed && stop.any Expr.startsWithPoint) " " ++ valueLayout "" stop
  | .paren inner => [.text "("] ++ exprLayout .inside inner ++ [.text ")"]
  | .tuple elements _ =>
    if elements.isEmpty && place.isArm then trailingLines [] else tupleLayout (exprsLayout elements)
  | .array elements _ => arrayLayout elements (exprsLayout elements)
  | .repetition element count =>
    [.text "["] ++ exprLayout .inside element ++ [.text "; "] ++ exprLayout .inside count
      ++ [.text "]"]
  | .call function arguments _ =>
    exprLayout place.function function ++ callLayout arguments (exprsLayout arguments)
  | .methodCall receiver method arguments _ =>
    let close := place.first == .lineStart && receiver.isShortName
    exprLayout (.base place.starts) receiver ++ accessBreak place receiver ++ [.text "."]
      ++ pathLayout true method
      ++ box (if close then -indentStep else 0) true (callLayout arguments (exprsLayout arguments))
  | .field base member =>
    exprLayout (.base place.starts) base ++ accessBreak place base
      ++ [.text ".", .text (memberText member)]
  | .await base =>
    exprLayout (.base place.starts) base ++ accessBreak place base ++ [.text ".await"]
  | .attempt base => exprLayout place.first base ++ [.text "?"]
  | .index base position =>
    exprLayout place.first base ++ [.text "["] ++ exprLayout .inside position ++ [.text "]"]
  | .struct path fields _ =>
    let open? := fields.getLast?.any Expr.isRemainder
    box indentStep true
        (withMaxWidth 34 (structLayout (pathLayout true path) open? (fieldsLayout fields)))
      ++ [.text "\x7d"]
  | .fieldValue member value => [.text (memberText member)] ++ fieldValueLayout value
  | .remainder base => [.text ".."] ++ valueLayout "" base
  | .macroCall call => macroCallLayout call
  | .closure head inputs _ output body =>
    closureLayout (closureHeadLayout head) (patternsLayout inputs) (outputLayout output) body
      (exprLayout .inside body)
  | .forAll params _ closure => binderLayout (genericsLayout params) ++ exprLayout .inside closure
  | .binding pattern value =>
    box 0 false ([.text "let "] ++ box 0 false (patternLayout pattern) ++ [.text " = ", noBreak]
      ++ exprLayout .inside value)
  | .breakOut label value =>
    [.text "break"] ++ jumpLabel label ++ valueLayout " " value
  | .continueLoop label => [.text "continue"] ++ jumpLabel label
  | .returnValue value => [.text "return"] ++ valueLayout " " value
  | .yieldValue value => [.text "yield"] ++ valueLayout " " value
  | .block .plain none [] [.expr inner false] =>
    match place with
    | .arm true => exprLayout (.arm true) inner
    | .arm false =>
      blockLayout place .plain none [] false
        (statementLine inner false (exprLayout .lineStart inner))
    | _ => blockLayout place .plain none [] false (smallValue (exprLayout .lineStart inner))
  | .block kind label attributes statements =>
    blockLayout place kind label (metasLayout true attributes) statements.isEmpty
      (if hasLines kind place then statementsLayout statements else smallLayout statements)
  | .conditional condition body otherwise =>
    let head := [.text "if "]
      ++ box (-indentStep) true (conditionFrame condition (exprLayout .inside condition))
    if place == .otherwise || otherwise.isSome then
      let pieces := head ++ smallBlock [] body.isEmpty (smallLayout body)
        ++ otherwiseLayout otherwise
      if place == .otherwise then pieces else indented pieces
    else if body.isEmpty then indented (head ++ [.text "\x7b\x7d"])
    else
      indented (head ++ [.text "\x7b"] ++ outdent (hardBreak :: statementsLayout body)
        ++ [.text "\x7d"])
  | .whileLoop label condition attributes body =>
    labelLayout label ++ [.text "while "] ++ conditionFrame condition (exprLayout .inside condition)
      ++ trailingLines (metasLayout true attributes ++ statementsLayout body)
  | .forLoop label pattern values attributes body =>
    box 0 false (labelLayout label ++ [.text "for "] ++ patternLayout pattern
      ++ [.text " in ", noBreak]
      ++ conditionFrame values (exprLayout .inside values)
      ++ trailingLines (metasLayout true attributes ++ statementsLayout body))
  | .choice value attributes arms =>
    box 0 false ([.text "match "] ++ conditionFrame value (exprLayout .inside value)
      ++ trailingLines (metasLayout true attributes ++ statementsLayout arms))
  | .attributed attributes inner =>
    match place with
    | .arm _ =>
      if isArmBlock e then exprLayout (.arm false) inner
      else metasLayout false attributes ++ exprLayout .lineStart inner
    | .base _ => metasLayout false attributes ++ exprLayout .inside inner
    | place => metasLayout false attributes ++ exprLayout place inner
  | .verbatim tokens => [.text (tokensText tokens)])

/-- The layout of each expression of a list. -/
def exprsLayout : List Expr → List (List Document)
  | [] => []
  | e :: rest => exprLayout .inside e :: exprsLayout rest

/-- The layout of the entries of a struct literal; an open one without a base is not written. -/
def fieldsLayout : List Expr → List (List Document)
  | [] => []
  | .remainder none :: rest => fieldsLayout rest
  | e :: rest => exprLayout .inside e :: fieldsLayout rest

/-- The layout of the value of a field. -/
def fieldValueLayout : Option Expr → List Document
  | some e => [.text ": "] ++ box 0 false (exprLayout .inside e)
  | none => []

/-- The layout of an optional value behind a lead. -/
def valueLayout (lead : String) : Option Expr → List Document
  | some e => [.text lead] ++ exprLayout .inside e
  | none => []

/-- The layout of the last branch of a conditional. -/
def otherwiseLayout : Option Expr → List Document
  | some e => [.text " else "] ++ exprLayout .otherwise e
  | none => []

/-- The layout of a pattern or parameter. -/
def patternLayout : Pattern → List Document
  | .wild => [.text "_"]
  | .rest => [.text ".."]
  | .value e => exprLayout .inside e
  | .binding byRef mutable name => textIf byRef "ref " ++ textIf mutable "mut " ++ [.text name]
  | .boundAs byRef mutable name inner =>
    textIf byRef "ref " ++ textIf mutable "mut " ++ [.text name, .text " @ "] ++ patternLayout inner
  | .alternatives _ cases =>
    box 0 (!cases.all Pattern.isPlainCase) (joined [softSpace, .text "| "] (patternsLayout cases))
  | .paren inner => [.text "("] ++ patternLayout inner ++ [.text ")"]
  | .reference mutable inner => [.text "&"] ++ textIf mutable "mut " ++ patternLayout inner
  | .slice elements _ => [.text "["] ++ listed commaBreak (patternsLayout elements) ++ [.text "]"]
  | .tuple elements trailing =>
    match patternsLayout elements with
    | [single] =>
      [.text "("] ++ indented
          (outdent ([softBreak] ++ single ++ textIf trailing "," ++ [softBreak]))
        ++ [.text ")"]
    | elements => enclosed "(" ")" elements
  | .tupleStruct path elements _ =>
    pathLayout true path ++ enclosed "(" ")" (patternsLayout elements)
  | .struct path fields _ =>
    indented (structLayout (pathLayout true path) (fields.getLast?.any fun p => p.bare.isRest)
      (patternsLayout fields)) ++ [.text "\x7d"]
  | .field member pattern => [.text (memberText member), .text ": "] ++ patternLayout pattern
  | .typed pattern type => patternLayout pattern ++ [.text ": "] ++ typeLayout type
  | .unnamed type => typeLayout type
  | .receiver borrow mutable type =>
    (match borrow with
      | some (some name) => [.text "&", .text (lifetimeText name), .text " "]
      | some none => [.text "&"]
      | none => [])
      ++ textIf mutable "mut " ++ [.text "self"]
      ++ (match type with
        | some type => [.text ": "] ++ typeLayout type
        | none => [])
  | .variadic => [.text "..."]
  | .namedVariadic pattern => patternLayout pattern ++ [.text ": ..."]
  | .attributed attributes pattern => metasLayout false attributes ++ patternLayout pattern
  | .verbatim tokens => [.text (tokensText tokens)]

/-- The layout of each pattern of a list. -/
def patternsLayout : List Pattern → List (List Document)
  | [] => []
  | pattern :: rest => patternLayout pattern :: patternsLayout rest

/-- The layout of a statement or arm; `last` says whether it ends its block. -/
def statementLayout (last : Bool) : Statement → List Document
  | .declare attributes pattern none _ _ =>
    metasLayout false attributes
      ++ box 0 false ([.text "let "] ++ patternLayout pattern ++ [.text ";"])
      ++ [hardBreak]
  | .declare attributes pattern (some value) false _ =>
    metasLayout false attributes
      ++ box 0 false ([.text "let "] ++ patternLayout pattern ++ [.text " = ", noBreak]
        ++ exprLayout .inside value ++ [.text ";"])
      ++ [hardBreak]
  | .declare attributes pattern (some value) true otherwise =>
    metasLayout false attributes
      ++ box 0 false ([.text "let "] ++ patternLayout pattern ++ [.text " = ", noBreak]
        ++ exprLayout .inside value ++ [softSpace, .text "else "])
      ++ [noBreak] ++ indented (smallBlock [] otherwise.isEmpty (smallLayout otherwise)
        ++ [.text ";"])
      ++ [hardBreak]
  | .item item => itemLayout [] [] item
  | .expr e semicolon => statementLine e semicolon (exprLayout .lineStart e)
  | .macroCall attributes call semicolon =>
    metasLayout false attributes ++ macroCallLayout call
      ++ textIf (semicolon || (!last && !call.arguments.isBraceGroup)) ";" ++ [hardBreak]
  | .empty => []
  | .arm attributes pattern guard body _ =>
    metasLayout false attributes
      ++ box 0 false (patternLayout pattern ++ valueLayout " if " guard ++ [.text " => "]
        ++ exprLayout (.arm true) body)
      ++ [hardBreak]

/-- The layout of statements, each on lines of its own. -/
def statementsLayout : List Statement → List Document
  | [] => []
  | statement :: rest => statementLayout rest.isEmpty statement ++ statementsLayout rest

/-- The layout of the content of a block that may stand on one line. -/
def smallLayout : List Statement → List Document
  | [] => []
  | [.expr e false] => smallValue (exprLayout .lineStart e)
  | statement :: rest => statementLayout rest.isEmpty statement ++ statementsLayout rest

/-- The layout of an item or member, given the layout of its attributes and its visibility. -/
def itemLayout (attributes visibility : List Document) : Item → List Document
  | .marked attributes visibility item =>
    itemLayout (metasLayout false attributes) (visibilityLayout visibility) item
  | .externCrate name newName =>
    attributes ++ visibility ++ [.text "extern crate ", .text name]
      ++ (match newName with
        | some newName => [.text " as ", .text newName]
        | none => [])
      ++ [.text ";", hardBreak]
  | .use leading tree =>
    attributes ++ visibility ++ [.text "use "] ++ textIf leading "::" ++ useTreeLayout tree
      ++ [.text ";", hardBreak]
  | .static mutable name type value =>
    attributes ++ lineItem 0 (visibility ++ [.text "static "] ++ textIf mutable "mut "
      ++ [.text name, .text ": "]
      ++ typeLayout type ++ initialLayout value ++ [.text ";"])
  | .const isDefault name type value =>
    attributes ++ lineItem 0 (visibility ++ textIf isDefault "default "
      ++ [.text "const ", .text name, .text ": "]
      ++ typeLayout type ++ initialLayout value ++ [.text ";"])
  | .function head generics params _ output hasBody inner body =>
    let signature :=
      visibility ++ signatureLayout head (paramsOf generics) params (patternsLayout params)
      (outputLayout output)
    attributes
      ++ (if hasBody then
        bodiedItem (signature ++ whereForBody (conditionsOf generics))
          (metasLayout true inner ++ statementsLayout body)
      else lineItem indentStep (signature ++ whereForEnd (conditionsOf generics)))
  | .typeAlias isDefault name generics bounds _ early value =>
    let head := visibility ++ textIf isDefault "default " ++ [.text "type ", .text name]
      ++ genericParamsLayout (paramsOf generics) ++ ledBy ": " (boundsOnLines (boundsLayout bounds))
    attributes
      ++ (match value with
        | some type =>
          if early then
            lineItem indentStep (head ++ whereOnLine (conditionsOf generics)
              ++ [.text "= ", noBreak]
              ++ box (-indentStep) false (typeLayout type) ++ [.text ";"])
          else
            lineItem indentStep
                (head ++ [.text " = ", noBreak] ++ box (-indentStep) false (typeLayout type)
              ++ whereAtEnd (conditionsOf generics))
        | none => lineItem indentStep (head ++ whereAtEnd (conditionsOf generics)))
  | .module isUnsafe name hasBody inner items =>
    let head := visibility ++ textIf isUnsafe "unsafe " ++ [.text "mod ", .text name]
    attributes
      ++ (if hasBody then
        bodiedItem (head ++ [.text " "]) (metasLayout true inner ++ itemsLayout items)
      else lineItem indentStep (head ++ [.text ";"]))
  | .foreign isUnsafe linkage inner items =>
    attributes
      ++ bodiedItem (textIf isUnsafe "unsafe " ++ linkageLayout linkage)
        (metasLayout true inner ++ itemsLayout items)
  | .struct name generics style fields _ =>
    let head := visibility ++ [.text "struct ", .text name]
      ++ genericParamsLayout (paramsOf generics)
    attributes
      ++ (match style with
        | .named =>
          bodiedItem (head ++ whereForBody (conditionsOf generics))
            ((membersLayout fields).flatMap (· ++ [.text ",", hardBreak]))
        | .unnamed =>
          lineItem indentStep
              (head ++ [.text "("]
                ++ outdent (softBreak :: listed commaBreak (membersLayout fields))
            ++ [.text ")"] ++ whereForEnd (conditionsOf generics))
        | .unit => lineItem indentStep (head ++ whereForEnd (conditionsOf generics)))
  | .enum name generics variants _ =>
    attributes
      ++ bodiedItem
            (visibility ++ [.text "enum ", .text name] ++ genericParamsLayout (paramsOf generics)
          ++ whereForBody (conditionsOf generics))
        ((membersLayout variants).flatMap (· ++ [.text ",", hardBreak]))
  | .union name generics fields _ =>
    attributes
      ++ bodiedItem
            (visibility ++ [.text "union ", .text name] ++ genericParamsLayout (paramsOf generics)
          ++ whereForBody (conditionsOf generics))
        ((membersLayout fields).flatMap (· ++ [.text ",", hardBreak]))
  | .trait isUnsafe isAuto name generics bounds _ inner items =>
    attributes
      ++ bodiedItem (visibility ++ textIf isUnsafe "unsafe " ++ textIf isAuto "auto "
          ++ [.text "trait ", .text name] ++ genericParamsLayout (paramsOf generics)
          ++ ledBy ": " (boundsOnLine (boundsLayout bounds))
          ++ whereForBody (conditionsOf generics))
        (metasLayout true inner ++ itemsLayout items)
  | .traitAlias name generics bounds _ =>
    attributes
      ++ lineItem indentStep
          (visibility ++ [.text "trait ", .text name] ++ genericParamsLayout (paramsOf generics)
        ++ [.text " = ", noBreak] ++ boundsOnLines (boundsLayout bounds)
        ++ whereForEnd (conditionsOf generics))
  | .impl isDefault isUnsafe generics negative asTrait self inner items =>
    attributes
      ++ bodiedItem (box (-indentStep) false
            (indented (textIf isDefault "default " ++ textIf isUnsafe "unsafe " ++ [.text "impl"]
                ++ genericParamsLayout (paramsOf generics))
              ++ [.text " "]
              ++ (match asTrait with
                | some type => textIf negative "!" ++ typeLayout type ++ [softSpace, .text "for "]
                | none => [])
              ++ typeLayout self)
          ++ whereForBody (conditionsOf generics))
        (metasLayout true inner ++ itemsLayout items)
  | .macroCall call name => attributes ++ macroItemLayout call name ++ [hardBreak]
  | .field name type =>
    attributes ++ visibility
      ++ (match name with
        | some name => [.text name, .text ": "]
        | none => [])
      ++ typeLayout type
  | .variant name style fields _ discriminant =>
    attributes ++ [.text name]
      ++ (match style with
        | .named =>
          [.text " \x7b"]
            ++ indented (outdent (softSpace :: listed commaSpace (membersLayout fields)))
            ++ [.text "\x7d"]
        | .unnamed =>
          indented ([.text "("] ++ outdent (softBreak :: listed commaBreak (membersLayout fields))
            ++ [.text ")"])
        | .unit => [])
      ++ valueLayout " = " discriminant
  | .verbatim tokens => [.text (tokensText tokens), hardBreak]

/-- The layout of the value of a constant or static variable. -/
def initialLayout : Option Expr → List Document
  | some e => [.text " = ", noBreak] ++ exprLayout .inside e
  | none => []

/-- The layout of items, one behind the other. -/
def itemsLayout : List Item → List Document
  | [] => []
  | item :: rest => itemLayout [] [] item ++ itemsLayout rest

/-- The layout of each member of an item. -/
def membersLayout : List Item → List (List Document)
  | [] => []
  | item :: rest => itemLayout [] [] item :: membersLayout rest
end

end FluentBuilder.Layout
