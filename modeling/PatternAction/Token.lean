import PatternAction.Location

/-!
Tokens: reserved words, symbols, literals, and the names they carry in diagnostics.
-/

set_option autoImplicit false
set_option relaxedAutoImplicit false

namespace PatternAction

inductive Keyword where
  | while | if | do | for | break | continue | else | return | begin | end
  | print | printf | next | in | delete | getline | exit | nextfile | function
deriving DecidableEq, Repr

namespace Keyword

def all : List Keyword :=
  [.while, .if, .do, .for, .break, .continue, .else, .return, .begin, .end, .print, .printf,
    .next, .in, .delete, .getline, .exit, .nextfile, .function]

def spelling : Keyword → String
  | .while => "while"
  | .if => "if"
  | .do => "do"
  | .for => "for"
  | .break => "break"
  | .continue => "continue"
  | .else => "else"
  | .return => "return"
  | .begin => "BEGIN"
  | .end => "END"
  | .print => "print"
  | .printf => "printf"
  | .next => "next"
  | .in => "in"
  | .delete => "delete"
  | .getline => "getline"
  | .exit => "exit"
  | .nextfile => "nextfile"
  | .function => "function"

def name : Keyword → String
  | .while => "WHILE"
  | .if => "IF"
  | .do => "DO"
  | .for => "FOR"
  | .break => "BREAK"
  | .continue => "CONTINUE"
  | .else => "ELSE"
  | .return => "RETURN"
  | .begin => "BEGIN"
  | .end => "END"
  | .print => "PRINT"
  | .printf => "PRINTF"
  | .next => "NEXT"
  | .in => "IN"
  | .delete => "DELETE"
  | .getline => "GETLINE"
  | .exit => "EXIT"
  | .nextfile => "NEXTFILE"
  | .function => "FUNCTION"

def ofSpelling? (text : String) : Option Keyword :=
  all.find? (·.spelling == text)

end Keyword

/-- Operators and punctuation; a separator is no symbol, since a newline is one too. -/
inductive Symbol where
  | greaterEqual | increment | decrement | lessEqual | equal | notEqual
  | caretAssign | percentAssign | starAssign | slashAssign | plusAssign | minusAssign
  | notMatch | and | append | or
  | leftBrace | rightBrace | leftBracket | rightBracket | leftParen | rightParen
  | dollar | match | assign | less | greater | not | plus | caret | minus
  | question | colon | star | slash | percent | pipe | comma
deriving DecidableEq, Repr

namespace Symbol

def all : List Symbol :=
  [.greaterEqual, .increment, .decrement, .lessEqual, .equal, .notEqual,
    .caretAssign, .percentAssign, .starAssign, .slashAssign, .plusAssign, .minusAssign,
    .notMatch, .and, .append, .or,
    .leftBrace, .rightBrace, .leftBracket, .rightBracket, .leftParen, .rightParen,
    .dollar, .match, .assign, .less, .greater, .not, .plus, .caret, .minus,
    .question, .colon, .star, .slash, .percent, .pipe, .comma]

def spelling : Symbol → List Char
  | .greaterEqual => ['>', '=']
  | .increment => ['+', '+']
  | .decrement => ['-', '-']
  | .lessEqual => ['<', '=']
  | .equal => ['=', '=']
  | .notEqual => ['!', '=']
  | .caretAssign => ['^', '=']
  | .percentAssign => ['%', '=']
  | .starAssign => ['*', '=']
  | .slashAssign => ['/', '=']
  | .plusAssign => ['+', '=']
  | .minusAssign => ['-', '=']
  | .notMatch => ['!', '~']
  | .and => ['&', '&']
  | .append => ['>', '>']
  | .or => ['|', '|']
  | .leftBrace => ['{']
  | .rightBrace => ['}']
  | .leftBracket => ['[']
  | .rightBracket => [']']
  | .leftParen => ['(']
  | .rightParen => [')']
  | .dollar => ['$']
  | .match => ['~']
  | .assign => ['=']
  | .less => ['<']
  | .greater => ['>']
  | .not => ['!']
  | .plus => ['+']
  | .caret => ['^']
  | .minus => ['-']
  | .question => ['?']
  | .colon => [':']
  | .star => ['*']
  | .slash => ['/']
  | .percent => ['%']
  | .pipe => ['|']
  | .comma => [',']

def name : Symbol → String
  | .greaterEqual => "GREATEREQUALTO"
  | .increment => "INCREMENT"
  | .decrement => "DECREMENT"
  | .lessEqual => "LESSEQUALTO"
  | .equal => "COMPARETO"
  | .notEqual => "NOTEQUALTO"
  | .caretAssign => "EXPONENTASSIGNMENT"
  | .percentAssign => "MODULUSASSIGNMENT"
  | .starAssign => "MULTIPLYASSIGNMENT"
  | .slashAssign => "DIVIDEASSIGNMENT"
  | .plusAssign => "ADDASSIGNMENT"
  | .minusAssign => "SUBTRACTASSIGNMENT"
  | .notMatch => "NOTMATCH"
  | .and => "LOGICALAND"
  | .append => "RIGHTSHIFT"
  | .or => "LOGICALOR"
  | .leftBrace => "LEFTCURLYBRACES"
  | .rightBrace => "RIGHTCURLYBRACES"
  | .leftBracket => "LEFTSQUAREBRACES"
  | .rightBracket => "RIGHTSQUAREBRACES"
  | .leftParen => "LEFTPARENTHESIS"
  | .rightParen => "RIGHTPARENTHESIS"
  | .dollar => "DOLLARSIGN"
  | .match => "MATCH"
  | .assign => "EQUALS"
  | .less => "LEFTARROW"
  | .greater => "RIGHTARROW"
  | .not => "EXCLAMATION"
  | .plus => "ADD"
  | .caret => "EXPONENT"
  | .minus => "SUBTRACT"
  | .question => "QUESTION"
  | .colon => "COLON"
  | .star => "MULTIPLY"
  | .slash => "DIVIDE"
  | .percent => "MODULUS"
  | .pipe => "OR"
  | .comma => "COMMA"

def ofSpelling? (cs : List Char) : Option Symbol :=
  all.find? (·.spelling == cs)

theorem mem_all (s : Symbol) : s ∈ all := by
  cases s <;> decide

end Symbol

namespace Token

/-- What a token is, apart from its place. -/
inductive Kind where
  | word (text : String)
  | number (text : String)
  | string (text : String)
  | pattern (text : String)
  | keyword (word : Keyword)
  | symbol (sign : Symbol)
  | separator
  | eof
deriving DecidableEq, Repr

namespace Kind

def literal? : Kind → Option String
  | .word text | .number text | .string text | .pattern text => some text
  | _ => none

def name : Kind → String
  | .word _ => "WORD"
  | .number _ => "NUMBER"
  | .string _ => "STRINGLITERAL"
  | .pattern _ => "PATTERN"
  | .keyword k => k.name
  | .symbol s => s.name
  | .separator => "SEPARATOR"
  | .eof => "EOF"

def render (k : Kind) : String :=
  match k.literal? with
  | some text => k.name ++ "(" ++ text ++ ")"
  | none => k.name

def isKeyword : Kind → Bool
  | .keyword _ => true
  | _ => false

def startsExpression : Kind → Bool
  | .word _ | .number _ | .string _ | .pattern _ => true
  | .symbol s => s ∈ [.leftParen, .dollar, .not, .plus, .minus, .increment, .decrement]
  | .keyword k => k ∈ [.print, .printf, .getline, .next, .nextfile, .exit]
  | _ => false

def sameAs : Kind → Kind → Bool
  | .word _, .word _ | .number _, .number _ | .string _, .string _
  | .pattern _, .pattern _ => true
  | a, b => a == b

end Kind

end Token

/-- A token with the place where it starts. -/
structure Token where
  kind : Token.Kind
  location : Location
deriving DecidableEq, Repr

end PatternAction
