import SqlOperator.Proofs.Text.Cuts
import SqlOperator.Proofs.Text.Numerals
import SqlOperator.Text.Form

/-!
# Reading form-encoded parameters

A reader of form-encoded parameters takes a query apart at each `&`, every part at its first
`=`, and then undoes the encoding of either side. It finds exactly the parameters that were
encoded, for whatever their names and values have of these marks is encoded itself.
-/

namespace SqlOperator.Text.Form

/-- The bytes that an encoded text stands for. A `%` without two digits behind it stands for
itself. -/
def unescape : List Char → Bytes
  | [] => []
  | '+' :: rest => 0x20 :: unescape rest
  | '%' :: high :: low :: rest =>
    match Hex.value? high, Hex.value? low with
    | some h, some l => UInt8.ofNat (h * 16 + l) :: unescape rest
    | _, _ => 0x25 :: unescape (high :: low :: rest)
  | c :: rest => String.utf8EncodeChar c ++ unescape rest

/-- A name or value, if it is valid UTF-8. -/
def decodeText? (cs : List Char) : Option String := Bytes.toText? (unescape cs)

/-- One parameter; without a `=` it has no value. -/
def decodeParameter? (cs : List Char) : Option (String × String) := do
  let (name, value) := (cutFirst? ['='] cs).getD (cs, [])
  some (← decodeText? name, ← decodeText? value)

/-- The parameters of a query, in order. -/
def decode? (query : List Char) : Option (List (String × String)) :=
  ((fields '&' query).filter fun part => !part.isEmpty).mapM decodeParameter?

/-- The parameters of a query that can be read, in order; others are passed over. -/
def readable (query : List Char) : List (String × String) :=
  ((fields '&' query).filter fun part => !part.isEmpty).filterMap decodeParameter?

/-- The value of a parameter. Of several the last one counts, as it does for database
clients. -/
def value? (name : String) (query : List Char) : Option String :=
  (readable query).reverse.lookup name

theorem unescape_cons {c : Char} (hplus : c ≠ '+') (hpercent : c ≠ '%') (rest : List Char) :
    unescape (c :: rest) = String.utf8EncodeChar c ++ unescape rest := by
  rw [unescape]
  · exact hplus
  · exact fun _ _ _ h => absurd h hpercent

/-- A plain byte is written as its character, which means nothing else. -/
theorem plain_cases : ∀ n < 256, isPlain (UInt8.ofNat n) = true →
    Char.ofNat n ∉ ['+', '%', '&', '=', '#'] ∧
      String.utf8EncodeChar (Char.ofNat n) = [UInt8.ofNat n] := by
  decide +kernel

theorem unescape_encodeByte_append (b : UInt8) (rest : List Char) :
    unescape (encodeByte b ++ rest) = b :: unescape rest := by
  unfold encodeByte
  split
  · rename_i hspace
    rw [hspace]
    rfl
  split
  · rename_i hplain
    obtain ⟨hmarks, hutf8⟩ := plain_cases b.toNat b.toNat_lt (by rwa [UInt8.ofNat_toNat])
    simp only [List.mem_cons, not_or] at hmarks
    rw [List.singleton_append, unescape_cons hmarks.1 hmarks.2.1, hutf8, UInt8.ofNat_toNat]
    rfl
  · have hb : b.toNat < 256 := b.toNat_lt
    have hvalue : UInt8.ofNat (b.toNat / 16 * 16 + b.toNat % 16) = b := by
      rw [show b.toNat / 16 * 16 + b.toNat % 16 = b.toNat by omega, UInt8.ofNat_toNat]
    simp only [Percent.encodeByte, List.cons_append, List.nil_append, unescape,
      Hex.value?_upper _ (show b.toNat / 16 < 16 by omega),
      Hex.value?_upper _ (show b.toNat % 16 < 16 by omega), hvalue]

theorem unescape_flatMap (bytes : Bytes) : unescape (bytes.flatMap encodeByte) = bytes := by
  induction bytes with
  | nil => rfl
  | cons b bytes ih => rw [List.flatMap_cons, unescape_encodeByte_append, ih]

/-- Every text comes back, plus signs and percent signs included. -/
theorem decodeText?_encodeText (text : String) : decodeText? (encodeText text) = some text := by
  rw [decodeText?, encodeText, unescape_flatMap, Bytes.toText?_ofText]

theorem notMem_encodeByte : ∀ n < 256, '&' ∉ encodeByte (UInt8.ofNat n) ∧
    '=' ∉ encodeByte (UInt8.ofNat n) ∧ '#' ∉ encodeByte (UInt8.ofNat n) := by
  decide +kernel

/-- Encoded texts have none of the marks of a query, nor the one behind it. -/
theorem notMem_encodeText {mark : Char} (h : mark = '&' ∨ mark = '=' ∨ mark = '#')
    (text : String) : mark ∉ encodeText text := by
  intro hm
  obtain ⟨b, -, hb⟩ := List.mem_flatMap.mp hm
  obtain ⟨hand, hequals, hhash⟩ := notMem_encodeByte b.toNat b.toNat_lt
  rw [UInt8.ofNat_toNat] at hand hequals hhash
  rcases h with rfl | rfl | rfl
  · exact hand hb
  · exact hequals hb
  · exact hhash hb

/-- A parameter has no mark in it that could end it or the query. -/
theorem notMem_encodeParameter {mark : Char} (h : mark = '&' ∨ mark = '#')
    (parameter : String × String) : mark ∉ encodeParameter parameter := by
  have hne : mark ≠ '=' := by
    rcases h with rfl | rfl <;> decide
  have hmark : mark = '&' ∨ mark = '=' ∨ mark = '#' := h.imp_right .inr
  intro hm
  rcases List.mem_append.mp hm with hm | hm
  · exact notMem_encodeText hmark _ hm
  · exact notMem_encodeText hmark _ (List.mem_of_ne_of_mem hne hm)

theorem decodeParameter?_encodeParameter (parameter : String × String) :
    decodeParameter? (encodeParameter parameter) = some parameter := by
  have hname : '=' ∉ encodeText parameter.1 := notMem_encodeText (.inr (.inl rfl)) _
  simp [decodeParameter?, encodeParameter, cutFirst?_append_cons hname, decodeText?_encodeText]

/-- The fields of a query are its parameters, each encoded. -/
theorem fields_encode {parameters : List (String × String)} (h : parameters ≠ []) :
    fields '&' (encode parameters) = parameters.map encodeParameter := by
  refine fields_join (by simpa using h) fun part hpart => ?_
  obtain ⟨p, -, rfl⟩ := List.mem_map.mp hpart
  exact notMem_encodeParameter (.inl rfl) p

theorem filter_map_encodeParameter (parameters : List (String × String)) :
    (parameters.map encodeParameter).filter (fun part => !part.isEmpty) =
      parameters.map encodeParameter := by
  refine List.filter_eq_self.mpr fun part hpart => ?_
  obtain ⟨p, -, rfl⟩ := List.mem_map.mp hpart
  simp [encodeParameter]

/-- Parameters that were encoded are read back, in order. -/
theorem decode?_encode (parameters : List (String × String)) :
    decode? (encode parameters) = some parameters := by
  have hmapM : (parameters.map encodeParameter).mapM decodeParameter? = some parameters := by
    induction parameters with
    | nil => rfl
    | cons p ps ih => simp [List.mapM_cons, decodeParameter?_encodeParameter, ih]
  cases parameters with
  | nil => rfl
  | cons p ps =>
    rw [decode?, fields_encode (List.cons_ne_nil _ _), filter_map_encodeParameter, hmapM]

/-- All parameters are read back in order. -/
theorem readable_encode (parameters : List (String × String)) :
    readable (encode parameters) = parameters := by
  cases parameters with
  | nil => rfl
  | cons p ps =>
    have hread : decodeParameter? ∘ encodeParameter = some :=
      funext decodeParameter?_encodeParameter
    rw [readable, fields_encode (List.cons_ne_nil _ _), filter_map_encodeParameter,
      List.filterMap_map, hread, List.filterMap_some]

/-- Parameters that are added to a query are read behind the ones that it has. -/
theorem readable_append (query : List Char) (parameters : List (String × String)) :
    readable (query ++ '&' :: encode parameters) = readable query ++ parameters := by
  conv => rhs; rw [← readable_encode parameters]
  simp only [readable, fields_append_sep, List.filter_append, List.filterMap_append]

/-- The last of the parameters tells the value. -/
theorem value?_of_readable {query : List Char} {before after : List (String × String)}
    {name value : String} (h : readable query = before ++ (name, value) :: after)
    (hafter : ∀ p ∈ after, p.1 ≠ name) : value? name query = some value := by
  have hlookup : after.reverse.lookup name = none :=
    List.lookup_eq_none_iff.mpr fun p hp => by
      simpa using (hafter p (List.mem_reverse.mp hp)).symm
  simp [value?, h, List.lookup_append, hlookup]

theorem hash_notMem_encode (parameters : List (String × String)) :
    '#' ∉ encode parameters := by
  intro hm
  rcases (mem_join hm : '#' ∈ ['&'] ∨ _) with hsep | ⟨part, hpart, hmark⟩
  · revert hsep
    decide
  · obtain ⟨q, -, rfl⟩ := List.mem_map.mp hpart
    exact notMem_encodeParameter (.inr rfl) q hmark

end SqlOperator.Text.Form
