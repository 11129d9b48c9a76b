import DiffGauge.Rust.Grammar

/-!
# The grammar of Rust

One grammar for each construct. Items, blocks, attributes, types and comments become nodes;
expressions and patterns are matched but left flat, because nothing but the blocks inside them is
looked for. A word is a keyword only where a keyword may stand.
-/

namespace DiffGauge.Rust

open Syntax

/-- Where an expression stands: anywhere, before a block, or in the guard of an arm. Before a
    block a brace opens no record; before a block and in a guard there are conditions that bind
    names. -/
inductive Position where
  | anywhere
  | beforeBlock
  | guard
  deriving DecidableEq, Repr

/-- The constructs that have a grammar. -/
inductive Construct where
  | file
  | statement
  | declaration
  | block
  | declarations
  | outerAttribute
  | innerAttribute
  | tokenTree
  | typ
  | plainType
  | typePath
  | typeArguments
  | typeParameters
  | parameters
  | whereClause
  | bounds
  | useClause
  | visibility
  | pattern
  | patternAtom
  | expr (p : Position)
  | operand (p : Position)
  | afterOperand (p : Position)
  | ending
  | ifExpr
  | fields
  | tupleFields
  deriving DecidableEq, Repr

/-- A grammar over the constructs. -/
abbrev G := Grammar Construct

namespace G

open Grammar

/-! ## Small pieces -/

/-- One item or more, commas between them and perhaps after the last. -/
def commaList1 (g : G) : G := seq [g, many (seq [mark ",", g]), opt (mark ",")]

/-- Any number of items, commas between them and perhaps one after them. The comma may stand
    alone. -/
def commaList (g : G) : G :=
  seq [opt (seq [g, many (seq [mark ",", g])]), opt (mark ",")]

/-- Something in braces. -/
def braced (g : G) : G := seq [mark "\x7b", must (seq [g, mark "\x7d"])]

/-- The words that begin an expression and so name nothing there. -/
def exprWords : List String :=
  ["if", "match", "while", "loop", "for", "unsafe", "async", "const", "return", "break",
   "continue", "move", "static", "try", "yield"]

/-- The words that begin a type and so name nothing there. -/
def typeWords : List String := ["impl", "fn", "dyn", "for", "extern", "unsafe"]

/-- The words that begin a pattern and so name nothing there. -/
def patternWords : List String := ["ref", "mut", "const"]

/-- The words that begin a declaration or a binding. -/
def itemWords : List String :=
  ["fn", "struct", "enum", "trait", "impl", "mod", "use", "pub", "type", "extern", "let"]

/-- The words for types that every program has. -/
def primitiveTypes : List String :=
  ["u8", "i8", "u16", "i16", "u32", "i32", "u64", "i64", "u128", "i128", "isize", "usize",
   "f32", "f64", "bool", "str", "char"]

/-- Any word as a name. -/
def identifier : G := name "identifier" []

/-- The words that a path goes on from, and that name nothing on their own. -/
def rootWords : List String := ["crate", "super"]

/-- A word that a path goes on from. -/
def pathRoot : G := seq [among "path_root" ("self" :: rootWords), next (mark "::")]

/-- A word as the name of a type. -/
def typeIdentifier : G := name "type_identifier" []

/-- A lifetime. -/
def lifetime : G := node "lifetime" (seq [mark "'", identifier])

/-- A number, a string, a character or a truth value. -/
def literalValue : G :=
  alt [literal .number "integer_literal", literal .text "string_literal",
    literal .character "char_literal", among "boolean_literal" ["true", "false"]]

/-- Attributes before something. -/
def attributes : G := many (rule .outerAttribute)

/-! ## Attributes and token trees -/

/-- A path of plain names. -/
def plainPath (except : List String) : G :=
  chain (alt [node "scoped_identifier" (seq [mark "::", identifier]), pathRoot,
      name "identifier" except])
    [("scoped_identifier", seq [mark "::", identifier])]

/-- What stands between the brackets of an attribute. -/
def attributeBody : G :=
  node "attribute" (seq [plainPath [],
    opt (alt [seq [mark "=", rule (.expr .anywhere)], role "arguments" (rule .tokenTree)])])

/-- An attribute before something. -/
def outerAttribute : G :=
  node "attribute_item" (seq [mark "#", mark "[", must (seq [attributeBody, mark "]"])])

/-- An attribute inside something. -/
def innerAttribute : G :=
  node "inner_attribute_item"
    (seq [mark "#", mark "!", mark "[", must (seq [attributeBody, mark "]"])])

/-- Raw tokens between brackets that pair up. -/
def tokenTree : G :=
  let inside := many (alt [rule .tokenTree, loose])
  node tokenTreeKind (alt [
    seq [mark "(", must (seq [inside, mark ")"])],
    seq [mark "[", must (seq [inside, mark "]"])],
    seq [mark "\x7b", must (seq [inside, mark "\x7d"])]])

/-- A macro that is called by its path. -/
def macroCall : G :=
  node "macro_invocation" (seq [plainPath exprWords, mark "!", rule .tokenTree])

/-- A macro that is defined by rules. -/
def macroDefinition : G :=
  let one := seq [rule .tokenTree, mark "=>", rule .tokenTree]
  let rules := opt (seq [one, many (seq [mark ";", one]), opt (mark ";")])
  node "macro_definition" (seq [word "macro_rules", mark "!", role "name" identifier,
    must (alt [seq [mark "(", rules, mark ")", mark ";"],
      seq [mark "[", rules, mark "]", mark ";"],
      seq [mark "\x7b", rules, mark "\x7d"]])])

/-! ## Types -/

/-- What stands between angle brackets after the name of a type. -/
def typeArguments : G :=
  let one := alt [
    seq [lifetime, many (seq [mark "+", alt [lifetime, rule .plainType]])],
    literalValue,
    seq [mark "-", literalValue],
    rule .block,
    seq [rule .typ, opt (seq [mark "=", alt [rule .typ, literalValue, rule .block]]),
      opt (rule .bounds)]]
  node "type_arguments" (seq [front "<", commaList1 (seq [attributes, one]), front ">"])

/-- A type between angle brackets, perhaps seen as a trait. -/
def bracketedType : G :=
  node "bracketed_type"
    (seq [front "<", rule .typ, opt (seq [word "as", rule .typ]), front ">"])

/-- What a function returns. -/
def returnType : G := seq [mark "->", rule .typ]

/-- A type that is named by a path. -/
def typePath : G :=
  let tails : List (String × G) := [
    ("scoped_type_identifier", seq [mark "::", typeIdentifier]),
    ("generic_type", seq [opt (mark "::"), rule .typeArguments]),
    ("function_type", seq [rule .parameters, opt (seq [mark "->", rule .plainType])])]
  alt [
    seq [among "primitive_type" primitiveTypes, butNot (mark "::")],
    chain (alt [
        seq [bracketedType, next (mark "::")],
        node "scoped_type_identifier" (seq [mark "::", typeIdentifier]),
        pathRoot,
        name "type_identifier" ("mut" :: "self" :: rootWords ++ typeWords)])
      tails]

/-- The words and strings that may stand before a function. -/
def functionModifier : G :=
  alt [word "async", word "default", word "const", word "unsafe", word "gen",
    node "extern_modifier" (seq [word "extern", opt (literal .text "string_literal")])]

/-- Lifetimes that are bound in front of a type. -/
def forLifetimes : G := seq [word "for", rule .typeParameters]

/-- A type without a sum of bounds. -/
def plainType : G :=
  alt [
    node "reference_type"
      (seq [front "&", opt lifetime, opt (word "mut"), rule .plainType]),
    node "pointer_type" (seq [mark "*", alt [word "const", word "mut"], rule .plainType]),
    node "unit_type" (seq [mark "(", mark ")"]),
    node "tuple_type" (seq [mark "(", commaList1 (rule .typ), mark ")"]),
    node "array_type"
      (seq [mark "[", rule .typ, opt (seq [mark ";", rule (.expr .anywhere)]), mark "]"]),
    node "never_type" (mark "!"),
    node "removed_trait_bound" (seq [mark "?", rule .plainType]),
    node "abstract_type" (seq [word "impl", rule .typ]),
    node "dynamic_type" (seq [word "dyn", alt [lifetime, rule .plainType]]),
    node "function_type" (seq [opt forLifetimes, many functionModifier, word "fn",
      rule .parameters, opt (seq [mark "->", rule .plainType])]),
    node "higher_ranked_trait_bound" (seq [forLifetimes, rule .plainType]),
    node "macro_invocation" (seq [plainPath typeWords, mark "!", rule .tokenTree]),
    node "metavariable" (seq [mark "$", identifier]),
    rule .typePath]

/-- One bound of a type. -/
def bound : G :=
  alt [lifetime,
    seq [word "use", front "<", commaList (alt [lifetime, typeIdentifier]), front ">"],
    rule .plainType]

/-- A type, perhaps with further bounds. -/
def typ : G := chain (rule .plainType) [("bounded_type", seq [mark "+", bound])]

/-- The bounds of a type, after a colon. -/
def bounds : G :=
  node "trait_bounds"
    (seq [mark ":", bound, many (seq [mark "+", bound])])

/-- Type parameters between angle brackets. -/
def typeParameters : G :=
  let constant := alt [rule .block, literalValue, seq [mark "-", literalValue], identifier]
  let one := alt [
    seq [lifetime, opt (rule .bounds)],
    seq [word "const", identifier, mark ":", rule .typ, opt (seq [mark "=", constant])],
    seq [typeIdentifier, opt (rule .bounds), opt (seq [mark "=", rule .typ])]]
  node "type_parameters" (seq [front "<", commaList1 (seq [attributes, one]), front ">"])

/-- Conditions on types. -/
def whereClause : G :=
  let one := seq [alt [lifetime, seq [opt forLifetimes, rule .typ]], rule .bounds]
  node "where_clause" (seq [word "where", opt (commaList1 one)])

/-! ## Declarations -/

/-- Who may name a declaration. -/
def visibility : G :=
  let scope := alt [
    seq [alt [word "self", word "super", word "crate"], mark ")"],
    seq [word "in", plainPath [], mark ")"]]
  node "visibility_modifier" (alt [
    seq [word "pub", opt (seq [mark "(", scope])],
    seq [word "crate", next identifier]])

/-- The parameters of a function. -/
def parameters : G :=
  let self := seq [opt (seq [front "&", opt lifetime]), opt (word "mut"), word "self"]
  let one := alt [
    seq [mark "..."],
    seq [butNot (among "identifier" typeWords), rule .pattern, mark ":",
      alt [mark "...", rule .typ]],
    seq [self, butNot (mark "::")],
    rule .typ]
  node "parameters" (seq [mark "(", commaList (seq [attributes, one]), mark ")"])

/-- A function, with a body or without one. -/
def function : G :=
  close
    (seq [opt (rule .visibility), many functionModifier, word "fn",
      must (seq [role "name" identifier, opt (rule .typeParameters), rule .parameters,
        opt returnType, opt (rule .whereClause)])])
    [("function_item", role "body" (rule .block)), ("function_signature_item", mark ";")]

/-- Named fields. -/
def fields : G :=
  let one := seq [attributes, opt (rule .visibility), identifier, mark ":", rule .typ]
  node "field_declaration_list" (braced (commaList one))

/-- Fields without names. -/
def tupleFields : G :=
  let one := seq [attributes, opt (rule .visibility), rule .typ]
  node "ordered_field_declaration_list" (seq [mark "(", must (seq [commaList one, mark ")"])])

/-- A structure. -/
def struct : G :=
  node "struct_item" (seq [opt (rule .visibility), word "struct",
    must (seq [role "name" typeIdentifier, opt (rule .typeParameters),
      alt [
        seq [role "body" (rule .tupleFields), opt (rule .whereClause), mark ";"],
        seq [opt (rule .whereClause), alt [role "body" (rule .fields), mark ";"]]]])])

/-- A union. -/
def union : G :=
  node "union_item" (seq [opt (rule .visibility), word "union", role "name" typeIdentifier,
    opt (rule .typeParameters), opt (rule .whereClause), role "body" (rule .fields)])

/-- An enumeration. -/
def enumeration : G :=
  let variant := seq [attributes, opt (rule .visibility), identifier,
    opt (alt [rule .fields, rule .tupleFields]),
    opt (seq [mark "=", rule (.expr .anywhere)])]
  let body := node "enum_variant_list" (braced (commaList variant))
  node "enum_item" (seq [opt (rule .visibility), word "enum",
    must (seq [role "name" typeIdentifier, opt (rule .typeParameters),
      opt (rule .whereClause), role "body" body])])

/-- A name for a type, or a type that is yet to be given. -/
def typeItem : G :=
  alt [
    node "type_item" (seq [opt (rule .visibility), word "type", role "name" typeIdentifier,
      opt (rule .typeParameters), opt (rule .whereClause), mark "=", rule .typ,
      opt (rule .whereClause), mark ";"]),
    node "associated_type" (seq [word "type", role "name" typeIdentifier,
      opt (rule .typeParameters), opt (rule .bounds), opt (rule .whereClause), mark ";"])]

/-- A trait. -/
def traitItem : G :=
  node "trait_item" (seq [opt (rule .visibility), opt (word "unsafe"), word "trait",
    must (seq [role "name" typeIdentifier, opt (rule .typeParameters), opt (rule .bounds),
      opt (rule .whereClause), role "body" (rule .declarations)])])

/-- An implementation, of a trait or not. -/
def implItem : G :=
  node "impl_item" (seq [opt (word "unsafe"), word "impl",
    must (seq [opt (rule .typeParameters),
      alt [
        seq [opt (mark "!"), role "trait" (rule .typePath), word "for",
          role "type" (rule .typ)],
        role "type" (rule .typ)],
      opt (rule .whereClause),
      alt [role "body" (rule .declarations), mark ";"]])])

/-- A module, here or in a file of its own. -/
def moduleItem : G :=
  node "mod_item" (seq [opt (rule .visibility), word "mod",
    must (seq [role "name" identifier, alt [mark ";", role "body" (rule .declarations)]])])

/-- Declarations that live elsewhere. -/
def foreignItem : G :=
  node "foreign_mod_item" (seq [opt (rule .visibility), opt (word "unsafe"),
    node "extern_modifier" (seq [word "extern", opt (literal .text "string_literal")]),
    alt [role "body" (rule .declarations), mark ";"]])

/-- A use of a crate. -/
def externCrate : G :=
  node "extern_crate_declaration" (seq [opt (rule .visibility), word "extern", word "crate",
    identifier, opt (seq [word "as", identifier]), mark ";"])

/-- What a use declaration brings in: a path and what it ends in. -/
def useClause : G :=
  let group := seq [mark "\x7b", must (seq [commaList (rule .useClause), mark "\x7d"])]
  let leaf := alt [group, mark "*"]
  alt [
    seq [opt (mark "::"), leaf],
    seq [opt (mark "::"), identifier,
      many (seq [mark "::", identifier]),
      opt (alt [seq [mark "::", leaf], seq [word "as", identifier]])]]

/-- A use declaration. -/
def useItem : G :=
  node "use_declaration" (seq [opt (rule .visibility), word "use",
    must (seq [rule .useClause, mark ";"])])

/-- The type and the value of a constant. -/
def typedValue : G :=
  seq [mark ":", rule .typ, opt (seq [mark "=", rule (.expr .anywhere)]), mark ";"]

/-- A constant. -/
def constItem : G :=
  node "const_item"
    (seq [opt (rule .visibility), word "const", role "name" identifier, typedValue])

/-- A static variable. -/
def staticItem : G :=
  node "static_item" (seq [opt (rule .visibility), word "static", opt (word "ref"),
    opt (word "mut"), role "name" identifier, typedValue])

/-- A binding. -/
def letItem : G :=
  node "let_declaration" (seq [word "let",
    must (seq [rule .pattern, opt (seq [mark ":", rule .typ]),
      opt (seq [mark "=", rule (.expr .anywhere)]), opt (seq [word "else", rule .block]),
      mark ";"])])

/-- A declaration, an attribute or a binding. -/
def item : G :=
  alt [node "empty_statement" (mark ";"), rule .outerAttribute, rule .innerAttribute, letItem,
    function, struct, enumeration, traitItem, implItem, moduleItem, useItem, typeItem,
    externCrate, foreignItem, constItem, staticItem, union, macroDefinition]

/-- What may stand in the body of a module, a trait or an implementation. -/
def declaration : G := alt [item, macroCall]

/-- Declarations in braces. -/
def declarations : G := node "declaration_list" (braced (many (rule .declaration)))

/-! ## Patterns -/

/-- A literal or a path in a pattern. Some words may not begin the path. -/
def patternLimit (except : List String) : G :=
  alt [seq [opt (mark "-"), literalValue],
    seq [
      alt [seq [opt (mark "::"), opt (seq [bracketedType, mark "::"]),
          name "identifier" (except ++ rootWords ++ patternWords)],
        pathRoot],
      many (seq [mark "::", alt [identifier, rule .typeArguments]])]]

/-- What a range of a pattern ends at. A guard may stand in its place. -/
def patternEnd : G := patternLimit ["if"]

/-- A field of a pattern. -/
def fieldPattern : G :=
  seq [attributes, alt [
    mark "..",
    seq [alt [identifier, literal .number "integer_literal"], mark ":", rule .pattern],
    seq [opt (word "box"), opt (word "ref"), opt (word "mut"), identifier]]]

/-- A pattern that is no choice of patterns. -/
def patternAtom : G :=
  let rangeMark := alt [mark "..=", mark "...", mark ".."]
  let patterns := commaList (seq [attributes, rule .pattern])
  alt [
    seq [front "&", opt (word "mut"), rule .patternAtom],
    seq [word "ref", opt (word "mut"), rule .patternAtom],
    seq [word "mut", rule .patternAtom],
    seq [word "box", rule .patternAtom],
    seq [mark "(", patterns, mark ")"],
    seq [mark "[", patterns, mark "]"],
    seq [word "const", rule .block],
    seq [alt [mark "..=", mark "..."], patternEnd],
    seq [mark "..", opt patternEnd],
    seq [mark "$", identifier],
    macroCall,
    seq [patternLimit [], alt [
      seq [mark "(", patterns, mark ")"],
      seq [mark "\x7b", commaList fieldPattern, mark "\x7d"],
      seq [mark "@", rule .patternAtom],
      seq [rangeMark, opt patternEnd],
      seq []]]]

/-- A pattern: a choice of one pattern or more. -/
def pattern : G :=
  seq [opt (front "|"), rule .patternAtom, many (seq [mark "|", rule .patternAtom])]

/-! ## Expressions -/

/-- A block, perhaps with a label. -/
def block : G :=
  node "block" (seq [opt (seq [lifetime, mark ":"]), braced (many (rule .statement))])

/-- A conditional expression. -/
def ifExpr : G :=
  seq [word "if", must (seq [rule (.expr .beforeBlock), rule .block,
    opt (seq [word "else", must (alt [rule .ifExpr, rule .block])])])]

/-- What follows the arrow of an arm. The comma may be left out after a block and at the end. -/
def armValue : G :=
  let stop := alt [mark ",", next (mark "\x7d")]
  let goesOn := alt [mark ".", mark "?", word "as", mark "==", mark "!=", mark "+", mark "/",
    mark "%", mark "^", mark ">", mark ">=", mark "<=", mark "*", mark "="]
  alt [
    seq [rule .ending, alt [
      seq [next goesOn, rule (.afterOperand .anywhere), stop], opt (mark ",")]],
    seq [rule (.expr .anywhere), stop]]

/-- An expression that chooses an arm. -/
def matchExpr : G :=
  let arm := seq [many (alt [rule .outerAttribute, rule .innerAttribute]), rule .pattern,
    opt (seq [word "if", rule (.expr .guard)]), mark "=>", armValue]
  seq [word "match", must (seq [rule (.expr .beforeBlock),
    mark "\x7b", many (rule .innerAttribute), many arm, mark "\x7d"])]

/-- An expression that repeats a block, perhaps with a label. -/
def loopExpr : G :=
  seq [opt (seq [lifetime, mark ":"]), alt [
    seq [word "loop", rule .block],
    seq [word "while", must (seq [rule (.expr .beforeBlock), rule .block])],
    seq [word "for", must (seq [rule .pattern, word "in", rule (.expr .beforeBlock),
      rule .block])]]]

/-- An expression that ends with a block. -/
def ending : G :=
  alt [rule .ifExpr, matchExpr, loopExpr,
    seq [alt [word "unsafe", word "const", word "try", word "gen"], rule .block],
    seq [word "async", opt (word "move"), rule .block],
    rule .block]

/-- A function without a name. -/
def closure (p : Position) : G :=
  let parameter := seq [rule .patternAtom, opt (seq [mark ":", rule .typ])]
  seq [opt (word "static"), opt (word "async"), opt (word "move"),
    front "|", opt (seq [parameter, many (seq [mark ",", parameter])]), front "|",
    alt [seq [returnType, rule .block], rule (.expr p)]]

/-- An expression among others, with attributes before it. -/
def argument : G := seq [attributes, rule (.expr .anywhere)]

/-- Expressions between commas. -/
def arguments : G := commaList argument

/-- An array. -/
def array : G :=
  seq [mark "[", alt [
    seq [argument, alt [
      seq [mark ";", rule (.expr .anywhere)],
      seq [many (seq [mark ",", argument]), opt (mark ",")]]],
    opt (mark ",")], mark "]"]

/-- The fields of a record. -/
def recordBody : G :=
  let one := seq [attributes, alt [
    seq [mark "..", opt (rule (.expr .anywhere))],
    seq [alt [identifier, literal .number "integer_literal"], mark ":",
      rule (.expr .anywhere)],
    identifier]]
  seq [mark "\x7b", commaList one, mark "\x7d"]

/-- A path, or the macro call or record that begins with one. -/
def pathExpr (p : Position) : G :=
  let path := seq [
    alt [seq [opt (mark "::"), name "identifier" (rootWords ++ exprWords)], pathRoot,
      seq [bracketedType, next (mark "::")], seq [mark "$", identifier]],
    many (seq [mark "::", alt [identifier, rule .typeArguments]])]
  let tails := match p with
    | .beforeBlock => alt [seq [mark "!", rule .tokenTree]]
    | _ => alt [seq [mark "!", rule .tokenTree], recordBody]
  seq [path, opt tails]

/-- The end of a range. Before a block a brace ends nothing. -/
def rangeEnd (p : Position) : G :=
  match p with
  | .beforeBlock => seq [butNot (mark "\x7b"), rule (.operand p)]
  | _ => rule (.operand p)

/-- A word that leaves a block, perhaps with a value. -/
def leaving (p : Position) : G :=
  let value := match p with
    | .beforeBlock => seq [butNot (mark "\x7b"), rule (.expr p)]
    | _ => rule (.expr p)
  let label := seq [lifetime, butNot (mark ":")]
  alt [
    seq [alt [word "return", word "yield"], opt value],
    seq [word "break", opt label, opt value],
    seq [word "continue", opt label]]

/-- An operand without the operators around it. -/
def primary (p : Position) : G :=
  alt [
    literalValue,
    seq [mark "(", opt (commaList1 argument), mark ")"],
    array,
    closure p,
    rule .ending,
    leaving p,
    seq [alt [mark "..", mark "..="], opt (rangeEnd p)],
    pathExpr p]

/-- An operator before an operand. -/
def prefixOp (p : Position) : G :=
  let borrow := seq [front "&", opt (alt [
    seq [word "raw", alt [word "const", word "mut"]], word "mut"])]
  let always := [mark "-", mark "*", mark "!", borrow]
  match p with
  | .anywhere => alt always
  | _ => alt (seq [word "let", rule .pattern, mark "="] :: always)

/-- An operator after an operand. -/
def postfixOp : G :=
  alt [
    seq [mark ".", alt [
      seq [identifier, opt (seq [mark "::", rule .typeArguments])],
      literal .number "integer_literal"]],
    mark "?",
    seq [mark "(", arguments, mark ")"],
    seq [mark "[", rule (.expr .anywhere), mark "]"],
    seq [word "as", rule .plainType]]

/-- The marks between two operands. -/
def binaryMarks : List String :=
  ["+", "-", "*", "/", "%", "^", "&", "|", "&&", "||", "<<", ">>", "==", "!=", "<", ">", "<=",
   ">=", "=", "+=", "-=", "*=", "/=", "%=", "^=", "&=", "|=", "<<=", ">>="]

/-- An operand with the operators before and after it. -/
def operand (p : Position) : G := seq [many (prefixOp p), primary p, many postfixOp]

/-- What may follow the first operand of an expression. -/
def afterOperand (p : Position) : G :=
  seq [many postfixOp, many (alt [
    seq [alt (binaryMarks.map mark), rule (.operand p)],
    seq [alt [mark "..", mark "..=", mark "..."], opt (rangeEnd p)]])]

/-- An expression. -/
def expr (p : Position) : G := seq [rule (.operand p), rule (.afterOperand p)]

/-! ## Statements -/

/-- The marks that carry on an expression at whose end a statement could also end. -/
def carriesOn : G :=
  alt (word "as" :: [".", "?", "==", "!=", "<=", ">=", "+", "/", "%", "^", "=", ">>", ">", "+=",
    "-=", "*=", "/=", "%=", "^=", "&=", "|=", "<<=", ">>="].map mark)

/-- The marks that carry on an expression that begins with a macro call. -/
def carriesOnMacro : G := alt [carriesOn, alt (["&&", "||", "&", "|", "<", "<<"].map mark)]

/-- A statement that ends in a given way if it does not end with a block. -/
def statementUntil (stop : G) : G :=
  let rest := seq [rule (.afterOperand .anywhere), stop]
  alt [
    item,
    seq [macroCall, alt [seq [next carriesOnMacro, rest], opt (mark ";")]],
    node "expression_statement"
      (seq [rule .ending, alt [seq [next carriesOn, rest], opt (mark ";")]]),
    node "expression_statement" (seq [butNot (among "identifier" itemWords),
      rule (.expr .anywhere), stop])]

/-- A statement of a block. The last one may be an expression alone. -/
def statement : G := statementUntil (alt [mark ";", next (mark "\x7d")])

/-- A whole file. -/
def file : G := many (statementUntil (mark ";"))

/-- The grammar of each construct. -/
def of : Construct → G
  | .file => file
  | .statement => statement
  | .declaration => declaration
  | .block => block
  | .declarations => declarations
  | .outerAttribute => outerAttribute
  | .innerAttribute => innerAttribute
  | .tokenTree => tokenTree
  | .typ => typ
  | .plainType => plainType
  | .typePath => typePath
  | .typeArguments => typeArguments
  | .typeParameters => typeParameters
  | .parameters => parameters
  | .whereClause => whereClause
  | .bounds => bounds
  | .useClause => useClause
  | .visibility => visibility
  | .pattern => pattern
  | .patternAtom => patternAtom
  | .expr p => expr p
  | .operand p => operand p
  | .afterOperand p => afterOperand p
  | .ending => ending
  | .ifExpr => ifExpr
  | .fields => fields
  | .tupleFields => tupleFields

end G

end DiffGauge.Rust
