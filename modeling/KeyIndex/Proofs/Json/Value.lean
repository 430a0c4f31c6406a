import KeyIndex.Proofs.Json.Tree

/-!
# Values that are written are read again

What is written of a value is one of the texts of the tree that the value stands for, so this tree
is read from it.  The value is kept of the tree again if its numbers are whole and not too large,
the names of each of its objects are distinct, and its containers are not nested too deep.

Main results:

- Definition `Value.tree`, Theorem `Value.tokens_tree`: the tree that a value stands for has the
  tokens that the value is written with.
- Theorem `Value.isText_render`: what is written is a text of the tree.
- Theorem `Value.parse?_render`: the tree is read from it.
- Definitions `Value.IsPlain`, `Value.depth`, Theorem `Value.keep?_tree`: which values are kept.
-/

namespace KeyIndex.Json

/-! ## Numbers and strings -/

/-- The digits of a number have its value. -/
theorem digitsValue_toDigits (n : Nat) : digitsValue (Nat.toDigits 10 n) = n := by
  have hfold : digitsValue (Nat.toDigits 10 n) = Nat.ofDigitChars 10 (Nat.toDigits 10 n) 0 := by
    simp only [digitsValue, Nat.ofDigitChars_eq_foldl, Nat.mul_comm]
  rw [hfold, Nat.ofDigitChars_ten_toDigits]

theorem isRun_toDigits (n : Nat) : IsRun (Nat.toDigits 10 n) where
  ne_nil := Nat.toDigits_ne_nil
  isDigit _ hc := Nat.isDigit_of_mem_toDigits (by omega) (by omega) hc

/-- A number other than zero does not start with a zero. -/
theorem head?_toDigits_ne {n : Nat} (h : 0 < n) : (Nat.toDigits 10 n).head? ≠ some '0' := by
  induction n using Nat.strongRecOn with
  | ind n ih =>
    by_cases hsmall : n < 10
    · have hdigit : ∀ n < 10, 0 < n → n.digitChar ≠ '0' := by decide
      rw [Nat.toDigits_of_lt_base hsmall, List.head?_cons, ne_eq, Option.some.injEq]
      exact hdigit n hsmall h
    · rw [Nat.toDigits_of_base_le (by omega) (by omega),
        List.head?_append_of_ne_nil _ Nat.toDigits_ne_nil]
      exact ih (n / 10) (by omega) (by omega)

theorem isWhole_toDigits (n : Nat) : IsWhole (Nat.toDigits 10 n) where
  toIsRun := isRun_toDigits n
  eq_zero hzero := by
    rcases Nat.eq_zero_or_pos n with rfl | hpos
    · rfl
    · exact absurd hzero (head?_toDigits_ne hpos)

/-- The characters of an exponent. -/
def exponentChars : Option Int → List Char
  | none => []
  | some e => 'e' :: (toString e).toList

theorem isExponent_exponentChars (exponent : Option Int) :
    IsExponent exponent (exponentChars exponent) := by
  rcases exponent with _ | n | n
  · exact .none
  · have hchars : (toString (Int.ofNat n)).toList = Nat.toDigits 10 n := String.toList_ofList
    have hexponent := IsExponent.unsigned (.inl rfl) (isRun_toDigits n)
    rw [digitsValue_toDigits] at hexponent
    rw [exponentChars, hchars]
    exact hexponent
  · have hchars : (toString (Int.negSucc n)).toList = '-' :: Nat.toDigits 10 (n + 1) := by
      have htext : toString (Int.negSucc n) = "-" ++ String.ofList (Nat.toDigits 10 (n + 1)) := rfl
      simp [htext]
    have hexponent := IsExponent.minus (.inl rfl) (isRun_toDigits (n + 1))
    rw [digitsValue_toDigits] at hexponent
    rw [exponentChars, hchars]
    exact hexponent

theorem Numeral.chars_eq (n : Numeral) :
    n.chars = (if n.negative then ['-'] else []) ++ n.whole ++
      (if n.fraction.isEmpty then [] else '.' :: n.fraction) ++ exponentChars n.exponent := by
  rcases n with ⟨negative, whole, fraction, exponent⟩
  cases exponent <;> rfl

/-- What is written of a number is a text of it. -/
theorem Number.isText_numeral (n : Number) : n.numeral.IsText n.numeral.chars := by
  have hchars : n.numeral.chars = (if n.numeral.negative then ['-'] else []) ++
      (Nat.toDigits 10 n.mantissa.natAbs ++ ([] ++ exponentChars n.numeral.exponent)) := by
    simp [Numeral.chars_eq, Number.numeral]
  rw [hchars]
  exact .intro _ (isWhole_toDigits _) .none (isExponent_exponentChars _)

theorem hex4?_control : ∀ n < 0x20,
    hex4? '0' '0' (hexDigit (n / 16)) (hexDigit (n % 16)) = some n := by
  decide

theorem ofCode_control (c : Char) (h : c.toNat < 0x20) : Unit16.ofCode c.toNat = .char c := by
  rw [Unit16.ofCode, if_neg (by omega), Char.ofNat_toNat]

/-- What is written of a character of a string is a text of it. -/
theorem isText_escapeChar (c : Char) : (Unit16.char c).IsText (escapeChar c) := by
  unfold escapeChar
  split_ifs with hquote hbackslash hline hreturn htab hback hform hcontrol
  · exact .short (by rw [hquote]; rfl)
  · exact .short (by rw [hbackslash]; rfl)
  · exact .short (by rw [hline]; rfl)
  · exact .short (by rw [hreturn]; rfl)
  · exact .short (by rw [htab]; rfl)
  · exact .short (by rw [hback]; rfl)
  · exact .short (by rw [hform]; rfl)
  · rw [← ofCode_control c hcontrol]
    exact .code (hex4?_control _ hcontrol)
  · exact .plain hquote hbackslash hcontrol

theorem areWritten_escaped (text : List Char) :
    AreWritten (text.map .char) (text.flatMap escapeChar) := by
  induction text with
  | nil => exact .nil
  | cons c text ih => exact .cons (isText_escapeChar c) ih

theorem names_map_char (text : List Char) : Names (text.map .char) text := by
  induction text with
  | nil => exact .nil
  | cons c text ih => exact .char c ih

/-- What is written of a string is a text of it. -/
theorem isText_string (text : String) :
    (Token.string (some text)).IsText (Token.string (some text)).chars :=
  .string (areWritten_escaped text.toList) (names_map_char text.toList)

namespace Value

/-! ## The tree of a value -/

mutual

/-- The tree that a value stands for. -/
def tree : Value → Tree
  | .null => .null
  | .bool b => .bool b
  | .number n => .number n.numeral
  | .string s => .string (some s)
  | .array items => .array (itemTrees items)
  | .object members => .object (memberTrees members)

/-- The trees of the items of an array. -/
def itemTrees : List Value → List Tree
  | [] => []
  | item :: items => item.tree :: itemTrees items

/-- The trees of the members of an object, with their names. -/
def memberTrees : List (String × Value) → List (Text × Tree)
  | [] => []
  | (name, value) :: members => (some name, value.tree) :: memberTrees members

end

mutual

/-- A value is written with the tokens of the tree that it stands for. -/
theorem tokens_tree : ∀ value : Value, value.tree.tokens = value.tokens
  | .null => rfl
  | .bool _ => rfl
  | .number _ => rfl
  | .string _ => rfl
  | .array items => by rw [tree, Tree.tokens, tokens, itemTokens_itemTrees items]
  | .object members => by rw [tree, Tree.tokens, tokens, memberTokens_memberTrees members]

theorem itemTokens_itemTrees : ∀ items : List Value,
    Tree.itemTokens (itemTrees items) = itemTokens items
  | [] => rfl
  | [item] => tokens_tree item
  | item :: next :: items => by
    have hitems := itemTokens_itemTrees (next :: items)
    rw [itemTrees] at hitems ⊢
    rw [itemTrees, Tree.itemTokens, itemTokens, tokens_tree item, hitems]
    all_goals exact List.cons_ne_nil _ _

theorem memberTokens_memberTrees : ∀ members : List (String × Value),
    Tree.memberTokens (memberTrees members) = memberTokens members
  | [] => rfl
  | [(name, value)] => by
    rw [memberTrees, memberTrees, Tree.memberTokens, memberTokens, tokens_tree value]
  | (name, value) :: next :: members => by
    have hmembers := memberTokens_memberTrees (next :: members)
    rw [memberTrees] at hmembers ⊢
    rw [memberTrees, Tree.memberTokens, memberTokens, tokens_tree value, hmembers]
    all_goals exact List.cons_ne_nil _ _

end

/-! ## What is written of a value -/

/-- Some tokens are written as texts of them. -/
def AreTexts (tokens : List Token) : Prop := ∀ token ∈ tokens, token.IsText token.chars

theorem areTexts_cons {token : Token} {tokens : List Token} :
    AreTexts (token :: tokens) ↔ token.IsText token.chars ∧ AreTexts tokens :=
  List.forall_mem_cons

theorem areTexts_append {tokens more : List Token} :
    AreTexts (tokens ++ more) ↔ AreTexts tokens ∧ AreTexts more :=
  List.forall_mem_append

theorem areTexts_nil : AreTexts [] := List.forall_mem_nil _

theorem areTexts_one {token : Token} (h : token.IsText token.chars) : AreTexts [token] :=
  areTexts_cons.mpr ⟨h, areTexts_nil⟩

/-- The name of a member, with its colon. -/
theorem areTexts_name (name : String) {tokens : List Token} (h : AreTexts tokens) :
    AreTexts (.string (some name) :: .colon :: tokens) :=
  areTexts_cons.mpr ⟨isText_string name, areTexts_cons.mpr ⟨.mark rfl, h⟩⟩

mutual

theorem areTexts_tokens : ∀ value : Value, AreTexts value.tokens
  | .null => areTexts_one .null
  | .bool true => areTexts_one .true
  | .bool false => areTexts_one .false
  | .number n => areTexts_one (.number n.isText_numeral)
  | .string s => areTexts_one (isText_string s)
  | .array items => by
    rw [tokens, List.cons_append]
    exact areTexts_cons.mpr ⟨.mark rfl,
      areTexts_append.mpr ⟨areTexts_itemTokens items, areTexts_one (.mark rfl)⟩⟩
  | .object members => by
    rw [tokens, List.cons_append]
    exact areTexts_cons.mpr ⟨.mark rfl,
      areTexts_append.mpr ⟨areTexts_memberTokens members, areTexts_one (.mark rfl)⟩⟩

theorem areTexts_itemTokens : ∀ items : List Value, AreTexts (itemTokens items)
  | [] => areTexts_nil
  | [item] => areTexts_tokens item
  | item :: next :: items => by
    rw [itemTokens]
    · exact areTexts_append.mpr ⟨areTexts_tokens item,
        areTexts_cons.mpr ⟨.mark rfl, areTexts_itemTokens (next :: items)⟩⟩
    · exact List.cons_ne_nil _ _

theorem areTexts_memberTokens : ∀ members : List (String × Value),
    AreTexts (memberTokens members)
  | [] => areTexts_nil
  | [(name, value)] => areTexts_name name (areTexts_tokens value)
  | (name, value) :: next :: members => by
    rw [memberTokens]
    · exact areTexts_name name (areTexts_append.mpr ⟨areTexts_tokens value,
        areTexts_cons.mpr ⟨.mark rfl, areTexts_memberTokens (next :: members)⟩⟩)
    · exact List.cons_ne_nil _ _

end

/-- Tokens that are written one after another are laid out without white space. -/
theorem AreTexts.lays {tokens : List Token} (h : AreTexts tokens) :
    Lays tokens (tokens.flatMap Token.chars) := by
  induction tokens with
  | nil => exact .nil
  | cons token tokens ih =>
    rcases areTexts_cons.mp h with ⟨htoken, htokens⟩
    exact .token htoken (ih htokens)

/-- What is written of a value is a text of the tree that it stands for. -/
theorem isText_render (value : Value) : value.tree.IsText value.render := by
  rw [Tree.IsText, tokens_tree, render, String.toList_ofList]
  exact (areTexts_tokens value).lays

/-- The tree that a value stands for is read from what is written of it. -/
theorem parse?_render (value : Value) : Tree.parse? value.render = some value.tree :=
  Tree.parse?_of_isText value.isText_render

/-! ## Values that are kept -/

/-- All numbers of a value are whole and fit into 64 bits, with or without a sign, and within
each object the names are distinct. -/
inductive IsPlain : Value → Prop where
  | null : IsPlain .null
  | bool (b : Bool) : IsPlain (.bool b)
  | int {n : Int} : -0x8000000000000000 ≤ n → n < 0x10000000000000000 → IsPlain (.int n)
  | string (s : String) : IsPlain (.string s)
  | array {items : List Value} : (∀ item ∈ items, IsPlain item) → IsPlain (.array items)
  | object {members : List (String × Value)} : (members.map (·.1)).Nodup →
      (∀ member ∈ members, IsPlain member.2) → IsPlain (.object members)

mutual

/-- How many containers of a value are nested in one another, at most. -/
def depth : Value → Nat
  | .array items => itemDepth items + 1
  | .object members => memberDepth members + 1
  | _ => 0

/-- The greatest depth of some items. -/
def itemDepth : List Value → Nat
  | [] => 0
  | item :: items => max item.depth (itemDepth items)

/-- The greatest depth of some members. -/
def memberDepth : List (String × Value) → Nat
  | [] => 0
  | (_, value) :: members => max value.depth (memberDepth members)

end

end Value

/-- A whole number is read from its digits. -/
theorem Number.ofNumeral_ofInt (n : Int) :
    Number.ofNumeral (Number.ofInt n).numeral = .ofInt n := by
  have hdigits : digitsValue ((Number.ofInt n).numeral.whole ++ (Number.ofInt n).numeral.fraction) =
      n.natAbs := by
    simp only [Number.ofInt, Number.numeral, List.append_nil, digitsValue_toDigits]
  rw [Number.ofNumeral, hdigits]
  simp only [Number.ofInt, Number.numeral, if_true, Option.getD_none, List.length_nil,
    Number.mk.injEq]
  by_cases hnegative : n < 0
  · simp only [hnegative, decide_true, if_true]
    omega
  · simp only [hnegative, decide_false, Bool.false_eq_true, if_false]
    omega

/-- Whole numbers of 64 bits are in range. -/
theorem Number.inRange_ofInt {n : Int} (hlow : -0x8000000000000000 ≤ n)
    (hhigh : n < 0x10000000000000000) : (Number.ofInt n).inRange = true := by
  have hmantissa : (Number.ofInt n).mantissa = n := rfl
  have hexponent : (Number.ofInt n).exponent = 0 := rfl
  rw [Number.inRange, hmantissa, hexponent]
  by_cases hzero : n = 0
  · rw [if_pos hzero]
  · have hsize : n.natAbs < Number.overflow := by
      have hoverflow : 0x10000000000000000 < Number.overflow := by decide
      exact Nat.lt_of_le_of_lt (by omega) hoverflow
    have hsmall : ¬ (0 : Int) < -(Nat.log2 n.natAbs + 1 : Int) := by omega
    rw [if_neg hzero, if_neg (by decide), if_neg hsmall, if_pos (Int.le_refl 0)]
    have hone : n.natAbs * Nat.pow 10 (Int.toNat 0) = n.natAbs := Nat.mul_one _
    rwa [hone, decide_eq_true_eq]

/-- Of distinct names each stands at its last place. -/
theorem lastOfEach_of_nodup {α : Type} {members : List (String × α)}
    (h : (members.map (·.1)).Nodup) : lastOfEach members = members := by
  induction members with
  | nil => rfl
  | cons member members ih =>
    rcases member with ⟨name, a⟩
    rw [List.map_cons, List.nodup_cons] at h
    have hnew : ¬ members.any (·.1 = name) = true := by
      rw [List.any_eq_true]
      rintro ⟨other, hother, hname⟩
      exact h.1 (List.mem_map.mpr ⟨other, hother, of_decide_eq_true hname⟩)
    rw [lastOfEach, if_neg hnew, ih h.2]

namespace Value

open Json.Tree

mutual

/-- A plain value is kept of the tree that it stands for, if so many nested containers are
allowed. -/
theorem keep?_tree : ∀ (value : Value) (depth : Nat), value.IsPlain → value.depth ≤ depth →
    value.tree.keep? depth = some value
  | .null, _, _, _ => rfl
  | .bool _, _, _, _ => rfl
  | .number _, _, .int hlow hhigh, _ => by
    simp only [tree, keep?, Number.ofNumeral_ofInt, Number.inRange_ofInt hlow hhigh, if_true]
  | .string _, _, _, _ => rfl
  | .array items, 0, _, hdepth => absurd hdepth (Nat.not_succ_le_zero _)
  | .array items, depth + 1, .array hitems, hdepth => by
    rw [tree, keep?, keepItems?_itemTrees items depth hitems (Nat.le_of_succ_le_succ hdepth)]
    rfl
  | .object members, 0, _, hdepth => absurd hdepth (Nat.not_succ_le_zero _)
  | .object members, depth + 1, .object hnames hmembers, hdepth => by
    rw [tree, keep?,
      keepMembers?_memberTrees members depth hmembers (Nat.le_of_succ_le_succ hdepth),
      Option.map_some, lastOfEach_of_nodup hnames]

theorem keepItems?_itemTrees : ∀ (items : List Value) (depth : Nat),
    (∀ item ∈ items, item.IsPlain) → itemDepth items ≤ depth →
      keepItems? depth (itemTrees items) = some items
  | [], _, _, _ => rfl
  | item :: items, depth, hplain, hdepth => by
    rcases Nat.max_le.mp hdepth with ⟨hitem, hitems⟩
    have hfirst := hplain item List.mem_cons_self
    have hmore := fun next hnext => hplain next (List.mem_cons_of_mem item hnext)
    rw [itemTrees, keepItems?, keep?_tree item depth hfirst hitem,
      keepItems?_itemTrees items depth hmore hitems]
    rfl

theorem keepMembers?_memberTrees : ∀ (members : List (String × Value)) (depth : Nat),
    (∀ member ∈ members, member.2.IsPlain) → memberDepth members ≤ depth →
      keepMembers? depth (memberTrees members) = some members
  | [], _, _, _ => rfl
  | (name, value) :: members, depth, hplain, hdepth => by
    rcases Nat.max_le.mp hdepth with ⟨hvalue, hmembers⟩
    have hfirst := hplain (name, value) List.mem_cons_self
    have hmore := fun next hnext => hplain next (List.mem_cons_of_mem (name, value) hnext)
    rw [memberTrees, keepMembers?, keep?_tree value depth hfirst hvalue,
      keepMembers?_memberTrees members depth hmore hmembers]
    rfl

end

end Value

end KeyIndex.Json
