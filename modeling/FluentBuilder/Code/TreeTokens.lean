import FluentBuilder.Code.Tree

/-!
# The tokens of trees

Writing a phrase back as tokens keeps what was written, with a few normal forms: operators lose the
accidental closeness they had to their neighbours, lifetimes come first among what stands between
angle brackets, and brackets, colons and words that introduce an empty list vanish.

* `TypeExpr.tokens`, `Path.tokens`, `Expr.tokens`, `Pattern.tokens`, `Item.tokens`, …: the tokens of
  a tree.
* `TypeExpr.text`, `Pattern.text`: their text on one line.
-/

namespace FluentBuilder.Code

/-! ### Lists -/

/-- Token lists with a separator between them, and behind the last one when `trailing` is set. -/
def separated (separator : Tokens) (trailing : Bool) : List Tokens → Tokens
  | [] => []
  | [last] => last ++ (if trailing then separator else [])
  | item :: rest => item ++ separator ++ separated separator trailing rest

/-- Token lists separated by commas. -/
def commaSeparated (trailing : Bool) (items : List Tokens) : Tokens :=
  separated (punctuation ",") trailing items

/-- Token lists separated by plus signs. -/
def plusSeparated (trailing : Bool) (items : List Tokens) : Tokens :=
  separated (punctuation "+") trailing items

/-- What stands between angle brackets, each entry given as whether it is a lifetime, and its
tokens.  Lifetimes are written first; a comma behind the last entry written is kept when it was
there in the source. -/
def lifetimesFirst (trailing : Bool) (entries : List (Bool × Tokens)) : Tokens :=
  let last := entries.length - 1
  let marked := entries.zipIdx.map fun (a, i) => (a.1, a.2, i != last || trailing)
  let ordered := marked.filter (·.1) ++ marked.filter (!·.1)
  commaSeparated ((ordered.getLast?.map (·.2.2)).getD false) (ordered.map (·.2.1))

/-- The tokens of an optional part. -/
def optionTokens (render : α → Tokens) : Option α → Tokens
  | some a => render a
  | none => []

/-- A keyword that is written or not. -/
def flagTokens (name : String) (flag : Bool) : Tokens :=
  if flag then [word name] else []

/-- An operator that is written or not. -/
def markTokens (operator : String) (flag : Bool) : Tokens :=
  if flag then punctuation operator else []

/-- Tokens behind an operator, or nothing if there are none. -/
def introduced (operator : String) : Tokens → Tokens
  | [] => []
  | tokens => punctuation operator ++ tokens

/-! ### Parts without phrases inside -/

/-- A lifetime as tokens. -/
def lifetimeTokens (name : String) : Tokens :=
  [.leaf (.lifetime name)]

/-- Lifetimes linked by plus signs. -/
def lifetimesTokens (trailing : Bool) (names : List String) : Tokens :=
  plusSeparated trailing (names.map lifetimeTokens)

/-- A literal as tokens; the sign of a number is a token by itself. -/
def literalTokens (text : String) : Tokens :=
  if text == "true" || text == "false" then [word text]
  else
    match text.toList with
    | '-' :: digits => punctuation "-" ++ [.leaf (.literal (String.ofList digits))]
    | _ => [.leaf (.literal text)]

/-- The tokens of the path of a module. -/
def ModulePath.tokens (path : ModulePath) : Tokens :=
  markTokens "::" path.leading
    ++ separated (punctuation "::") false (path.names.map fun name => [word name])

/-- The tokens of a call of a macro. -/
def MacroCall.tokens (call : MacroCall) : Tokens :=
  call.path.tokens ++ punctuation "!" ++ [call.arguments]

/-- The tokens of a visibility. -/
def ItemVisibility.tokens : ItemVisibility → Tokens
  | .inherited => []
  | .everywhere => [word "pub"]
  | .restricted isIn path => [word "pub", .group .paren (flagTokens "in" isIn ++ path.tokens)]

/-- The token of the name or position of a field. -/
def Member.token : Member → TokenTree
  | .named name => word name
  | .position index => .leaf (.literal (toString index))

/-- The tokens of a calling convention. -/
def Linkage.tokens : Linkage → Tokens
  | .native => []
  | .foreign name => word "extern" :: optionTokens (fun text => [.leaf (.literal text)]) name

/-- The tokens of a label in front of a loop or block. -/
def labelTokens (label : Option String) : Tokens :=
  optionTokens (fun name => lifetimeTokens name ++ punctuation ":") label

/-- The words in front of a block. -/
def BlockKind.tokens : BlockKind → Tokens
  | .plain => []
  | .unguarded => [word "unsafe"]
  | .constant => [word "const"]
  | .attempt => [word "try"]
  | .suspended isMove => word "async" :: flagTokens "move" isMove
  | .loop => [word "loop"]

/-- The words in front of the parameters of a closure. -/
def ClosureHead.tokens (head : ClosureHead) : Tokens :=
  flagTokens "const" head.isConst ++ flagTokens "static" head.isStatic
    ++ flagTokens "async" head.isAsync
    ++ flagTokens "move" head.isMove

/-- The words in front of the parameters of a function, up to its name. -/
def FunctionHead.tokens (head : FunctionHead) : Tokens :=
  flagTokens "default" head.isDefault ++ flagTokens "const" head.isConst
    ++ flagTokens "async" head.isAsync
    ++ flagTokens "unsafe" head.isUnsafe ++ head.linkage.tokens ++ [word "fn", word head.name]

mutual
/-- The tokens of the tree of an import. -/
def UseTree.tokens : UseTree → Tokens
  | .path name rest => word name :: punctuation "::" ++ rest.tokens
  | .name name => [word name]
  | .rename name newName => [word name, word "as", word newName]
  | .glob => punctuation "*"
  | .group trees trailing => [.group .brace (commaSeparated trailing (useTreesTokens trees))]

/-- The tokens of each tree of an import. -/
def useTreesTokens : List UseTree → List Tokens
  | [] => []
  | tree :: rest => tree.tokens :: useTreesTokens rest
end

/-- The tokens of a binder, given the tokens of its parameters. -/
def binderTokens (params : List (Bool × Tokens)) (trailing : Bool) : Tokens :=
  word "for" :: punctuation "<" ++ commaSeparated trailing (params.map (·.2)) ++ punctuation ">"

/-! ### Phrases -/

mutual
/-- The tokens of a type. -/
def TypeExpr.tokens : TypeExpr → Tokens
  | .path path => path.tokens false
  | .slice element => [.group .bracket element.tokens]
  | .array element length => [.group .bracket (element.tokens ++ punctuation ";" ++ length.tokens)]
  | .tuple elements trailing =>
    [.group .paren (commaSeparated (trailing || elements.length == 1) (typesTokens elements))]
  | .paren inner => [.group .paren inner.tokens]
  | .reference lifetime mutable target =>
    punctuation "&" ++ optionTokens lifetimeTokens lifetime ++ flagTokens "mut" mutable
      ++ target.tokens
  | .pointer mutable target =>
    punctuation "*" ++ [word (if mutable then "mut" else "const")] ++ target.tokens
  | .never => punctuation "!"
  | .infer => [word "_"]
  | .function isUnsafe linkage params trailing output =>
    flagTokens "unsafe" isUnsafe ++ linkage.tokens
      ++ [word "fn", .group .paren (commaSeparated trailing (patternsTokens params))]
      ++ introduced "->" (typeTokens? output)
  | .forAll params trailing type => binderTokens (genericsTokens params) trailing ++ type.tokens
  | .traitObject dynamic bounds trailing =>
    flagTokens "dyn" dynamic ++ plusSeparated trailing (boundsTokens bounds)
  | .implTrait bounds trailing => word "impl" :: plusSeparated trailing (boundsTokens bounds)
  | .macroCall call => call.tokens
  | .verbatim tokens => tokens

/-- The tokens of each type of a list. -/
def typesTokens : List TypeExpr → List Tokens
  | [] => []
  | type :: rest => type.tokens :: typesTokens rest

/-- The tokens of an optional type. -/
def typeTokens? : Option TypeExpr → Tokens
  | some type => type.tokens
  | none => []

/-- The tokens of a path; `linked` says whether another name follows. -/
def Path.tokens (linked : Bool) : Path → Tokens
  | .root leading => markTokens "::" leading
  | .ofType type => punctuation "<" ++ type.tokens ++ punctuation ">" ++ markTokens "::" linked
  | .ofTypeAs type asTrait =>
    punctuation "<" ++ type.tokens ++ [word "as"] ++ asTrait.tokens false ++ punctuation ">"
      ++ markTokens "::" linked
  | .plain before name => before.tokens true ++ [word name] ++ markTokens "::" linked
  | .angle before name turbofish arguments trailing =>
    before.tokens true ++ [word name] ++ markTokens "::" turbofish ++ punctuation "<"
      ++ lifetimesFirst trailing (genericsTokens arguments) ++ punctuation ">"
      ++ markTokens "::" linked
  | .call before name inputs trailing output =>
    before.tokens true ++ [word name, .group .paren (commaSeparated trailing (typesTokens inputs))]
      ++ introduced "->" (typeTokens? output) ++ markTokens "::" linked

/-- The tokens of a bound. -/
def Bound.tokens : Bound → Tokens
  | .lifetime name => lifetimeTokens name
  | .trait maybe path => markTokens "?" maybe ++ path.tokens false
  | .forAll params trailing bound => binderTokens (genericsTokens params) trailing ++ bound.tokens
  | .paren inner => [.group .paren inner.tokens]
  | .captures names trailing =>
    word "use" :: punctuation "<" ++ commaSeparated trailing (names.map fun name => [.leaf name])
      ++ punctuation ">"
  | .verbatim tokens => tokens

/-- The tokens of each bound of a list. -/
def boundsTokens : List Bound → List Tokens
  | [] => []
  | bound :: rest => bound.tokens :: boundsTokens rest

/-- The tokens of an argument, parameter or condition, with a mark on lifetimes. -/
def Generic.tokens : Generic → Bool × Tokens
  | .lifetime name => (true, lifetimeTokens name)
  | .type type => (false, type.tokens)
  | .const value => (false, value.tokens)
  | .equation name type => (false, name.tokens false ++ punctuation "=" ++ type.tokens)
  | .constEquation name value => (false, name.tokens false ++ punctuation "=" ++ value.tokens)
  | .constraint name bounds trailing =>
    (false, name.tokens false ++ punctuation ":" ++ plusSeparated trailing (boundsTokens bounds))
  | .lifetimeParam name bounds trailing =>
    (true, lifetimeTokens name ++ introduced ":" (lifetimesTokens trailing bounds))
  | .typeParam name bounds trailing default =>
    (false, word name :: introduced ":" (plusSeparated trailing (boundsTokens bounds))
      ++ introduced "=" (typeTokens? default))
  | .constParam name type default =>
    (false, [word "const", word name] ++ punctuation ":" ++ type.tokens
      ++ introduced "=" (exprTokens? default))
  | .attributed attributes param =>
    let (isLifetime, tokens) := param.tokens
    (isLifetime, metasTokens false attributes ++ tokens)
  | .lifetimeCondition name bounds trailing =>
    (true, lifetimeTokens name ++ punctuation ":" ++ lifetimesTokens trailing bounds)
  | .condition type bounds trailing =>
    (false, type.tokens ++ punctuation ":" ++ plusSeparated trailing (boundsTokens bounds))

/-- The tokens of each argument, parameter or condition of a list, with a mark on lifetimes. -/
def genericsTokens : List Generic → List (Bool × Tokens)
  | [] => []
  | entry :: rest => entry.tokens :: genericsTokens rest

/-- The tokens of the generic parameters of an item. -/
def Generics.paramTokens : Generics → Tokens
  | .mk [] _ _ _ => []
  | .mk params trailing _ _ =>
    punctuation "<" ++ lifetimesFirst trailing (genericsTokens params) ++ punctuation ">"

/-- The tokens of the where clause of an item. -/
def Generics.whereTokens : Generics → Tokens
  | .mk _ _ [] _ => []
  | .mk _ _ conditions trailing =>
    word "where" :: commaSeparated trailing ((genericsTokens conditions).map (·.2))

/-- The tokens of the content of an attribute. -/
def Meta.tokens : Meta → Tokens
  | .bare path => path.tokens
  | .list path arguments => path.tokens ++ [arguments]
  | .assigned path value => path.tokens ++ punctuation "=" ++ value.tokens

/-- The tokens of attributes, in front of something or `inside` it. -/
def metasTokens (inside : Bool) : List Meta → Tokens
  | [] => []
  | m :: rest =>
    punctuation "#" ++ markTokens "!" inside ++ [.group .bracket m.tokens]
      ++ metasTokens inside rest

/-- The tokens of an expression. -/
def Expr.tokens : Expr → Tokens
  | .literal text => literalTokens text
  | .path path => path.tokens false
  | .infer => [word "_"]
  | .unary operator operand => punctuationOf [operator] ++ operand.tokens
  | .reference mutable operand => punctuation "&" ++ flagTokens "mut" mutable ++ operand.tokens
  | .address mutable operand =>
    punctuation "&" ++ [word "raw", word (if mutable then "mut" else "const")] ++ operand.tokens
  | .binary operator left right => left.tokens ++ punctuation operator ++ right.tokens
  | .assign left right => left.tokens ++ punctuation "=" ++ right.tokens
  | .cast operand type => operand.tokens ++ [word "as"] ++ type.tokens
  | .range start closed stop =>
    exprTokens? start ++ punctuation (if closed then "..=" else "..") ++ exprTokens? stop
  | .paren inner => [.group .paren inner.tokens]
  | .tuple elements trailing =>
    [.group .paren (commaSeparated (trailing || elements.length == 1) (exprsTokens elements))]
  | .array elements trailing => [.group .bracket (commaSeparated trailing (exprsTokens elements))]
  | .repetition element count =>
    [.group .bracket (element.tokens ++ punctuation ";" ++ count.tokens)]
  | .call function arguments trailing =>
    function.tokens ++ [.group .paren (commaSeparated trailing (exprsTokens arguments))]
  | .methodCall receiver method arguments trailing =>
    receiver.tokens ++ punctuation "." ++ method.tokens false
      ++ [.group .paren (commaSeparated trailing (exprsTokens arguments))]
  | .field base member => base.tokens ++ punctuation "." ++ [member.token]
  | .await base => base.tokens ++ punctuation "." ++ [word "await"]
  | .attempt base => base.tokens ++ punctuation "?"
  | .index base position => base.tokens ++ [.group .bracket position.tokens]
  | .struct path fields trailing =>
    path.tokens false ++ [.group .brace (commaSeparated trailing (exprsTokens fields))]
  | .fieldValue member value => member.token :: introduced ":" (exprTokens? value)
  | .remainder base => punctuation ".." ++ exprTokens? base
  | .macroCall call => call.tokens
  | .closure head inputs trailing output body =>
    head.tokens ++ punctuation "|" ++ commaSeparated trailing (patternsTokens inputs)
      ++ punctuation "|"
      ++ introduced "->" (typeTokens? output) ++ body.tokens
  | .forAll params trailing closure =>
    binderTokens (genericsTokens params) trailing ++ closure.tokens
  | .binding pattern value => word "let" :: pattern.tokens ++ punctuation "=" ++ value.tokens
  | .breakOut label value => word "break" :: optionTokens lifetimeTokens label ++ exprTokens? value
  | .continueLoop label => word "continue" :: optionTokens lifetimeTokens label
  | .returnValue value => word "return" :: exprTokens? value
  | .yieldValue value => word "yield" :: exprTokens? value
  | .block kind label attributes statements =>
    labelTokens label ++ kind.tokens
      ++ [.group .brace (metasTokens true attributes ++ statementsTokens statements)]
  | .conditional condition body otherwise =>
    word "if" :: condition.tokens ++ [.group .brace (statementsTokens body)]
      ++ (match otherwise with
        | some e => word "else" :: e.tokens
        | none => [])
  | .whileLoop label condition attributes body =>
    labelTokens label ++ [word "while"] ++ condition.tokens
      ++ [.group .brace (metasTokens true attributes ++ statementsTokens body)]
  | .forLoop label pattern values attributes body =>
    labelTokens label ++ [word "for"] ++ pattern.tokens ++ [word "in"] ++ values.tokens
      ++ [.group .brace (metasTokens true attributes ++ statementsTokens body)]
  | .choice value attributes arms =>
    word "match" :: value.tokens
      ++ [.group .brace (metasTokens true attributes ++ statementsTokens arms)]
  | .attributed attributes expr => metasTokens false attributes ++ expr.tokens
  | .verbatim tokens => tokens

/-- The tokens of each expression of a list. -/
def exprsTokens : List Expr → List Tokens
  | [] => []
  | e :: rest => e.tokens :: exprsTokens rest

/-- The tokens of an optional expression. -/
def exprTokens? : Option Expr → Tokens
  | some e => e.tokens
  | none => []

/-- The tokens of a pattern or parameter. -/
def Pattern.tokens : Pattern → Tokens
  | .wild => [word "_"]
  | .rest => punctuation ".."
  | .value expr => expr.tokens
  | .binding byRef mutable name => flagTokens "ref" byRef ++ flagTokens "mut" mutable ++ [word name]
  | .boundAs byRef mutable name inner =>
    flagTokens "ref" byRef ++ flagTokens "mut" mutable ++ [word name] ++ punctuation "@"
      ++ inner.tokens
  | .alternatives leading cases =>
    markTokens "|" leading ++ separated (punctuation "|") false (patternsTokens cases)
  | .paren inner => [.group .paren inner.tokens]
  | .reference mutable inner => punctuation "&" ++ flagTokens "mut" mutable ++ inner.tokens
  | .slice elements trailing =>
    [.group .bracket (commaSeparated trailing (patternsTokens elements))]
  | .tuple elements trailing => [.group .paren (commaSeparated trailing (patternsTokens elements))]
  | .tupleStruct path elements trailing =>
    path.tokens false ++ [.group .paren (commaSeparated trailing (patternsTokens elements))]
  | .struct path fields trailing =>
    path.tokens false ++ [.group .brace (commaSeparated trailing (patternsTokens fields))]
  | .field member pattern => member.token :: punctuation ":" ++ pattern.tokens
  | .typed pattern type => pattern.tokens ++ punctuation ":" ++ type.tokens
  | .unnamed type => type.tokens
  | .receiver borrow mutable type =>
    optionTokens (fun lifetime => punctuation "&" ++ optionTokens lifetimeTokens lifetime) borrow
      ++ flagTokens "mut" mutable ++ [word "self"] ++ introduced ":" (typeTokens? type)
  | .variadic => punctuation "..."
  | .namedVariadic pattern => pattern.tokens ++ punctuation ":" ++ punctuation "..."
  | .attributed attributes pattern => metasTokens false attributes ++ pattern.tokens
  | .verbatim tokens => tokens

/-- The tokens of each pattern of a list. -/
def patternsTokens : List Pattern → List Tokens
  | [] => []
  | pattern :: rest => pattern.tokens :: patternsTokens rest

/-- The tokens of a statement or arm. -/
def Statement.tokens : Statement → Tokens
  | .declare attributes pattern value diverges otherwise =>
    metasTokens false attributes ++ [word "let"] ++ pattern.tokens
      ++ introduced "=" (exprTokens? value)
      ++ (if diverges then [word "else", .group .brace (statementsTokens otherwise)] else [])
      ++ punctuation ";"
  | .item item => item.tokens
  | .expr expr semicolon => expr.tokens ++ markTokens ";" semicolon
  | .macroCall attributes call semicolon =>
    metasTokens false attributes ++ call.tokens ++ markTokens ";" semicolon
  | .empty => punctuation ";"
  | .arm attributes pattern guard body comma =>
    metasTokens false attributes ++ pattern.tokens
      ++ (match guard with
        | some e => word "if" :: e.tokens
        | none => [])
      ++ punctuation "=>" ++ body.tokens ++ markTokens "," comma

/-- The tokens of statements. -/
def statementsTokens : List Statement → Tokens
  | [] => []
  | statement :: rest => statement.tokens ++ statementsTokens rest

/-- The tokens of an item or member. -/
def Item.tokens : Item → Tokens
  | .marked attributes visibility item =>
    metasTokens false attributes ++ visibility.tokens ++ item.tokens
  | .externCrate name newName =>
    [word "extern", word "crate", word name] ++ optionTokens (fun n => [word "as", word n]) newName
      ++ punctuation ";"
  | .use leading tree => word "use" :: markTokens "::" leading ++ tree.tokens ++ punctuation ";"
  | .static mutable name type value =>
    word "static" :: flagTokens "mut" mutable ++ [word name] ++ punctuation ":" ++ type.tokens
      ++ introduced "=" (exprTokens? value) ++ punctuation ";"
  | .const isDefault name type value =>
    flagTokens "default" isDefault ++ [word "const", word name] ++ punctuation ":" ++ type.tokens
      ++ introduced "=" (exprTokens? value) ++ punctuation ";"
  | .function head generics params trailing output hasBody attributes body =>
    head.tokens ++ generics.paramTokens
      ++ [.group .paren (commaSeparated trailing (patternsTokens params))]
      ++ introduced "->" (typeTokens? output) ++ generics.whereTokens
      ++ (if hasBody then [.group .brace (metasTokens true attributes ++ statementsTokens body)]
        else punctuation ";")
  | .typeAlias isDefault name generics bounds trailing early value =>
    flagTokens "default" isDefault ++ [word "type", word name] ++ generics.paramTokens
      ++ introduced ":" (plusSeparated trailing (boundsTokens bounds))
      ++ (if early then generics.whereTokens else []) ++ introduced "=" (typeTokens? value)
      ++ (if early then [] else generics.whereTokens) ++ punctuation ";"
  | .module isUnsafe name hasBody attributes items =>
    flagTokens "unsafe" isUnsafe ++ [word "mod", word name]
      ++ (if hasBody then
        [.group .brace (metasTokens true attributes ++ (itemsTokens items).flatten)]
        else punctuation ";")
  | .foreign isUnsafe linkage attributes items =>
    flagTokens "unsafe" isUnsafe ++ linkage.tokens
      ++ [.group .brace (metasTokens true attributes ++ (itemsTokens items).flatten)]
  | .struct name generics style fields trailing =>
    [word "struct", word name] ++ generics.paramTokens
      ++ (match style with
        | .named =>
          generics.whereTokens ++ [.group .brace (commaSeparated trailing (itemsTokens fields))]
        | .unnamed =>
          .group .paren (commaSeparated trailing (itemsTokens fields)) :: generics.whereTokens
            ++ punctuation ";"
        | .unit => generics.whereTokens ++ punctuation ";")
  | .enum name generics variants trailing =>
    [word "enum", word name] ++ generics.paramTokens ++ generics.whereTokens
      ++ [.group .brace (commaSeparated trailing (itemsTokens variants))]
  | .union name generics fields trailing =>
    [word "union", word name] ++ generics.paramTokens ++ generics.whereTokens
      ++ [.group .brace (commaSeparated trailing (itemsTokens fields))]
  | .trait isUnsafe isAuto name generics bounds trailing attributes items =>
    flagTokens "unsafe" isUnsafe ++ flagTokens "auto" isAuto ++ [word "trait", word name]
      ++ generics.paramTokens ++ introduced ":" (plusSeparated trailing (boundsTokens bounds))
      ++ generics.whereTokens
      ++ [.group .brace (metasTokens true attributes ++ (itemsTokens items).flatten)]
  | .traitAlias name generics bounds trailing =>
    [word "trait", word name] ++ generics.paramTokens ++ punctuation "="
      ++ plusSeparated trailing (boundsTokens bounds) ++ generics.whereTokens ++ punctuation ";"
  | .impl isDefault isUnsafe generics negative asTrait self attributes items =>
    flagTokens "default" isDefault ++ flagTokens "unsafe" isUnsafe ++ [word "impl"]
      ++ generics.paramTokens
      ++ (match asTrait with
        | some path => markTokens "!" negative ++ path.tokens ++ [word "for"]
        | none => [])
      ++ self.tokens ++ generics.whereTokens
      ++ [.group .brace (metasTokens true attributes ++ (itemsTokens items).flatten)]
  | .macroCall call name =>
    call.path.tokens ++ punctuation "!" ++ optionTokens (fun n => [word n]) name ++ [call.arguments]
      ++ markTokens ";" (!call.arguments.isBraceGroup)
  | .field name type => optionTokens (fun n => word n :: punctuation ":") name ++ type.tokens
  | .variant name style fields trailing discriminant =>
    word name
      :: (match style with
        | .named => [.group .brace (commaSeparated trailing (itemsTokens fields))]
        | .unnamed => [.group .paren (commaSeparated trailing (itemsTokens fields))]
        | .unit => [])
      ++ introduced "=" (exprTokens? discriminant)
  | .verbatim tokens => tokens

/-- The tokens of each item of a list. -/
def itemsTokens : List Item → List Tokens
  | [] => []
  | item :: rest => item.tokens :: itemsTokens rest
end

/-- The text of a type on one line. -/
def TypeExpr.text (t : TypeExpr) : String :=
  tokensText t.tokens

/-- The text of a pattern on one line. -/
def Pattern.text (p : Pattern) : String :=
  tokensText p.tokens

end FluentBuilder.Code
