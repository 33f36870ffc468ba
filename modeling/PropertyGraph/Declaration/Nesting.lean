import PropertyGraph.Declaration.Token

/-!
# Nesting of brackets

Cuts of code at tokens that stand outside all brackets. Round, square and curly brackets come in
pairs. Angle brackets are marks that may also compare, shift or point as an arrow: one that is left
open ends with the bracket around it, one that closes nothing is no bracket, and the end of an
arrow never is. Every cut keeps all tokens in order.
-/
namespace PropertyGraph.Code

/-- The token is an opening bracket that is no mark. -/
def isOpening (token : Token) : Bool :=
  ['(', '[', '\x7b'].any (token == .bracket ·)

/-- The token is a closing bracket that is no mark. -/
def isClosing (token : Token) : Bool :=
  [')', ']', '\x7d'].any (token == .bracket ·)

/-- The brackets around a token, the innermost first, given those that are open before it. -/
def nestOf (opened : List Token) (token : Token) : List Token :=
  if isClosing token then opened.dropWhile (Token.isMark '<') else opened

/-- The brackets that are open behind a token, given those around it. -/
def openedBehind (nest : List Token) (token : Token) : List Token :=
  if isClosing token then nest.drop 1
  else if isOpening token || token.isMark '<' then token :: nest
  else if token.isMark '>' && nest.head?.any (Token.isMark '<') then nest.drop 1
  else nest

/-- Cuts code before the first token with no brackets around it that passes a test or closes a
bracket. -/
def cutInside (test : Token → Bool) (opened : List Token) : Code → Code × Code
  | [] => ([], [])
  | .mark '-' :: .mark '>' :: rest =>
    let (front, back) := cutInside test opened rest
    (.mark '-' :: .mark '>' :: front, back)
  | token :: rest =>
    let nest := nestOf opened token
    if nest.isEmpty && (test token || isClosing token) then ([], token :: rest)
    else
      let (front, back) := cutInside test (openedBehind nest token) rest
      (token :: front, back)

/-- Cuts code before the first token outside all brackets that passes a test or closes a bracket
that is not in the code. -/
def cut (test : Token → Bool) (code : Code) : Code × Code :=
  cutInside test [] code

/-- Cuts code before the end of the brackets that it begins in. -/
def cutEnclosed (code : Code) : Code × Code :=
  cut (fun _ => false) code

/-- Cutting leaves out nothing: the two parts of the code are the code. -/
theorem append_cutInside (test : Token → Bool) (opened : List Token) (code : Code) :
    (cutInside test opened code).1 ++ (cutInside test opened code).2 = code := by
  fun_induction cutInside test opened code <;> simp_all

/-- A cut keeps all tokens in order. -/
theorem append_cut (test : Token → Bool) (code : Code) :
    (cut test code).1 ++ (cut test code).2 = code :=
  append_cutInside test [] code

/-- The parts of a cut are as long as the code. -/
theorem length_cut (test : Token → Bool) (code : Code) :
    (cut test code).1.length + (cut test code).2.length = code.length := by
  rw [← List.length_append, append_cut]

/-- The parts of code between commas outside all brackets, each with the comma behind it. -/
def parts (code : Code) : List Code :=
  match code with
  | [] => []
  | first :: later =>
    match found : cut (Token.isMark ',') (first :: later) with
    | (front, []) => [front]
    | (front, comma :: rest) =>
      have : rest.length < (first :: later).length := by
        have := length_cut (Token.isMark ',') (first :: later)
        rw [found, List.length_cons] at this
        omega
      (front ++ [comma]) :: parts rest
termination_by code.length
decreasing_by exact this

/-- The parts together are the code. -/
theorem flatten_parts (code : Code) : (parts code).flatten = code := by
  fun_induction parts code with
  | case1 => rfl
  | case2 first later front found =>
    have := append_cut (Token.isMark ',') (first :: later)
    simpa [found] using this
  | case3 first later front comma rest found _ ih =>
    have := append_cut (Token.isMark ',') (first :: later)
    simpa [found, ih] using this

/-- Two rows of parts in one. A comma comes between them if there is none behind the first. -/
def joined (first second : Code) : Code :=
  if first.isEmpty || second.isEmpty || first.getLast? == some (Token.mark ',') then first ++ second
  else first ++ .mark ',' :: second

end PropertyGraph.Code
