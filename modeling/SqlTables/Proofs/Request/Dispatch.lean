import SqlTables.Proofs.Rename.Spelled
import SqlTables.Request

/-!
# Which request an object is

An object is read as the request for a renaming first, and if that fails, for whatever reason, as
the request for the tables, which does not look at `tableMapping` at all. So an object with such a
member is a renaming, or not a request, only if that member is there once and is an object of
strings, or if the text to work on cannot be read. Any other is answered with the tables of the
text.
-/

namespace SqlTables

/-! ## Objects in a text -/

/-- The members of the object that a text is, with nothing but blanks around it. -/
def Json.members? (text : String) : Option (List (String × Json)) :=
  match (Json.Read.value Json.Read.depthLimit).run ⟨0, text.toList⟩ with
  | .ok (.object members, place) =>
    match Json.Read.finish.run place with
    | .ok _ => some members
    | .error _ => none
  | _ => none

theorem Json.members?_eq_some {text : String} {members : List (String × Json)}
    (body : Json.members? text = some members) :
    ∃ place, (Json.Read.value Json.Read.depthLimit).run ⟨0, text.toList⟩ =
        .ok (.object members, place) ∧
      ∃ done, Json.Read.finish.run place = .ok done := by
  unfold Json.members? at body
  split at body
  case h_1 found place parsed =>
    split at body
    case h_1 done ended =>
      cases body
      exact ⟨place, parsed, done, ended⟩
    case h_2 => cases body
  case h_2 => cases body

namespace Request

section

variable {text : String} {members : List (String × Json)}

theorem read_eq_ok_iff {request : Request} (body : Json.members? text = some members) :
    read text = .ok request ↔ ofJson? (.object members) = some request := by
  obtain ⟨place, parsed, done, ended⟩ := Json.members?_eq_some body
  cases shaped : ofJson? (.object members) with
  | none => simp [read, parsed, shaped]
  | some found => simp [read, parsed, shaped, ended]

theorem read_eq_error_iff {error : RequestError} (body : Json.members? text = some members) :
    read text = .error error ↔ ofJson? (.object members) = none ∧ error = .unknownShape := by
  obtain ⟨place, parsed, done, ended⟩ := Json.members?_eq_some body
  cases shaped : ofJson? (.object members) with
  | none => simp [read, parsed, shaped, eq_comm]
  | some found => simp [read, parsed, shaped, ended]

end

/-! ## Members of an object -/

def keys (members : List (String × Json)) : List String :=
  members.map Prod.fst

theorem count_keys (members : List (String × Json)) (key : String) :
    (keys members).count key = (members.filter fun entry => entry.1 == key).length := by
  rw [keys, List.count, List.countP_map, List.countP_eq_length_filter]
  rfl

theorem member?_eq_none_iff {key : String} {members : List (String × Json)} :
    member? key members = some none ↔ key ∉ keys members := by
  rw [← List.count_eq_zero, count_keys, List.length_eq_zero_iff, member?]
  split
  case h_1 none => simp [none]
  case h_2 one => simp [one]
  case h_3 more _ => simpa using more

/-- A key has a value exactly if it occurs once, with that value. -/
theorem member?_eq_some_iff {key : String} {members : List (String × Json)} {value : Json} :
    member? key members = some (some value) ↔
      (keys members).count key = 1 ∧ (key, value) ∈ members := by
  have listed : (key, value) ∈ members ↔
      (key, value) ∈ members.filter fun entry => entry.1 == key := by
    simp
  rw [count_keys, listed, member?]
  split
  case h_1 none => simp [none]
  case h_2 entry one =>
    have here : entry.1 = key := by
      have member : entry ∈ members.filter fun entry => entry.1 == key := by simp [one]
      simpa using (List.mem_filter.mp member).2
    obtain ⟨found, content⟩ := entry
    subst here
    simp [one, eq_comm]
  case h_3 others none one =>
    simp only [reduceCtorEq, false_iff, not_and]
    intro single
    obtain ⟨entry, alone⟩ := List.length_eq_one_iff.mp single
    exact absurd alone (one entry)

/-! ## The fields of requests -/

/-- The text to work on, as the members of an object give it: it may be missing or null, but not
given twice. -/
inductive TextMember (members : List (String × Json)) : Option String → Prop where
  | missing (absent : "sql" ∉ keys members) : TextMember members none
  | null (once : (keys members).count "sql" = 1) (member : ("sql", .null) ∈ members) :
      TextMember members none
  | given {text : String} (once : (keys members).count "sql" = 1)
      (member : ("sql", .string text) ∈ members) : TextMember members (some text)

/-- The mapping that the members of an object give: there is one of them, and it is an object of
strings, in which the last string of a key wins. -/
structure MappingMember (members : List (String × Json)) (mapping : Mapping) : Prop where
  once : (keys members).count "tableMapping" = 1
  typed : ∃ pairs : List (String × String),
    ("tableMapping", .object (pairs.map fun pair => (pair.1, Json.string pair.2))) ∈ members ∧
      mapping = Mapping.ofList pairs

theorem bind_text?_eq_some_iff {members : List (String × Json)} {sql : Option String} :
    (member? "sql" members).bind text? = some sql ↔ TextMember members sql := by
  constructor
  · intro found
    obtain ⟨value, member, read⟩ := Option.bind_eq_some_iff.mp found
    unfold text? at read
    split at read
    case h_1 =>
      cases read
      exact .missing (member?_eq_none_iff.mp member)
    case h_2 =>
      cases read
      obtain ⟨once, listed⟩ := member?_eq_some_iff.mp member
      exact .null once listed
    case h_3 text =>
      cases read
      obtain ⟨once, listed⟩ := member?_eq_some_iff.mp member
      exact .given once listed
    case h_4 => cases read
  · intro given
    refine Option.bind_eq_some_iff.mpr ?_
    cases given with
    | missing absent => exact ⟨none, member?_eq_none_iff.mpr absent, rfl⟩
    | null once member => exact ⟨_, member?_eq_some_iff.mpr ⟨once, member⟩, rfl⟩
    | given once member => exact ⟨_, member?_eq_some_iff.mpr ⟨once, member⟩, rfl⟩

/-- Members are read as pairs of strings exactly if their values are these strings. -/
theorem mapM_pair?_eq_some_iff {members : List (String × Json)}
    {pairs : List (String × String)} :
    members.mapM pair? = some pairs ↔
      members = pairs.map fun pair => (pair.1, Json.string pair.2) := by
  induction members generalizing pairs with
  | nil => cases pairs <;> simp
  | cons member rest ih =>
      have single (pair : String × String) :
          pair? member = some pair ↔ member = (pair.1, Json.string pair.2) := by
        obtain ⟨key, value⟩ := member
        obtain ⟨wantedKey, wanted⟩ := pair
        cases value <;> simp [pair?]
      simp only [List.mapM_cons, Option.bind_eq_bind, Option.pure_def, Option.bind_eq_some_iff,
        Option.some.injEq, single, ih]
      constructor
      · rintro ⟨pair, rfl, others, rfl, rfl⟩
        rfl
      · intro whole
        obtain ⟨pair, others, rfl, here, behind⟩ := List.map_eq_cons_iff.mp whole.symm
        exact ⟨pair, here.symm, others, behind.symm, rfl⟩

theorem bind_mapping?_eq_some_iff {members : List (String × Json)} {mapping : Mapping} :
    ((member? "tableMapping" members).bind fun value => value.bind mapping?) = some mapping ↔
      MappingMember members mapping := by
  constructor
  · intro found
    obtain ⟨optional, member, present⟩ := Option.bind_eq_some_iff.mp found
    obtain ⟨value, rfl, read⟩ := Option.bind_eq_some_iff.mp present
    obtain ⟨once, listed⟩ := member?_eq_some_iff.mp member
    unfold mapping? at read
    split at read
    case h_1 entries =>
      obtain ⟨pairs, typed, rfl⟩ := Option.map_eq_some_iff.mp read
      obtain rfl := mapM_pair?_eq_some_iff.mp typed
      exact ⟨once, pairs, listed, rfl⟩
    case h_2 => cases read
  · rintro ⟨once, pairs, listed, rfl⟩
    refine Option.bind_eq_some_iff.mpr ⟨_, member?_eq_some_iff.mpr ⟨once, listed⟩, ?_⟩
    simp only [Option.bind_some, mapping?, mapM_pair?_eq_some_iff.mpr rfl, Option.map_some]

/-! ## Dispatch -/

section

variable {members : List (String × Json)} {request : Request}

theorem replace?_object_eq_some_iff :
    replace? (.object members) = some request ↔
      ∃ sql mapping, TextMember members sql ∧ MappingMember members mapping ∧
        request = .replace sql mapping := by
  simp only [replace?, Option.bind_eq_bind, Option.pure_def, ← bind_text?_eq_some_iff,
    ← bind_mapping?_eq_some_iff, Option.bind_eq_some_iff, Option.some.injEq]
  constructor
  · rintro ⟨text, member, sql, read, optional, other, value, present, mapping, typed, rfl⟩
    exact ⟨sql, mapping, ⟨text, member, read⟩, ⟨optional, other, value, present, typed⟩, rfl⟩
  · rintro ⟨sql, mapping, ⟨text, member, read⟩, ⟨optional, other, value, present, typed⟩, rfl⟩
    exact ⟨text, member, sql, read, optional, other, value, present, mapping, typed, rfl⟩

theorem extract?_object_eq_some_iff :
    extract? (.object members) = some request ↔
      ∃ sql, TextMember members sql ∧ request = .extract sql := by
  simp only [extract?, Option.bind_eq_bind, Option.pure_def, ← bind_text?_eq_some_iff,
    Option.bind_eq_some_iff, Option.some.injEq]
  constructor
  · rintro ⟨text, member, sql, read, rfl⟩
    exact ⟨sql, ⟨text, member, read⟩, rfl⟩
  · rintro ⟨sql, ⟨text, member, read⟩, rfl⟩
    exact ⟨text, member, sql, read, rfl⟩

/-- An object is read as the request for a renaming if it can be, and else as the other one. -/
theorem ofJson?_object_eq_some_iff :
    ofJson? (.object members) = some request ↔
      ∃ sql, TextMember members sql ∧
        ((∃ mapping, MappingMember members mapping ∧ request = .replace sql mapping) ∨
          (¬ ∃ mapping, MappingMember members mapping) ∧ request = .extract sql) := by
  rw [ofJson?, Option.orElse_eq_orElse, Option.orElse_eq_or, Option.or_eq_some_iff,
    replace?_object_eq_some_iff, extract?_object_eq_some_iff, Option.eq_none_iff_forall_ne_some]
  constructor
  · rintro (⟨sql, mapping, given, mapped, rfl⟩ | ⟨unread, sql, given, rfl⟩)
    · exact ⟨sql, given, Or.inl ⟨mapping, mapped, rfl⟩⟩
    · refine ⟨sql, given, Or.inr ⟨?_, rfl⟩⟩
      rintro ⟨mapping, mapped⟩
      exact unread _ (replace?_object_eq_some_iff.mpr ⟨sql, mapping, given, mapped, rfl⟩)
  · rintro ⟨sql, given, ⟨mapping, mapped, rfl⟩ | ⟨unmapped, rfl⟩⟩
    · exact Or.inl ⟨sql, mapping, given, mapped, rfl⟩
    · refine Or.inr ⟨fun other read => ?_, sql, given, rfl⟩
      obtain ⟨-, mapping, -, mapped, -⟩ := replace?_object_eq_some_iff.mp read
      exact unmapped ⟨mapping, mapped⟩

theorem ofJson?_object_eq_none_iff :
    ofJson? (.object members) = none ↔ ¬ ∃ sql, TextMember members sql := by
  rw [Option.eq_none_iff_forall_ne_some]
  constructor
  · rintro unread ⟨sql, given⟩
    by_cases mapped : ∃ mapping, MappingMember members mapping
    · obtain ⟨mapping, mapped⟩ := mapped
      exact unread _ (ofJson?_object_eq_some_iff.mpr
        ⟨sql, given, Or.inl ⟨mapping, mapped, rfl⟩⟩)
    · exact unread _ (ofJson?_object_eq_some_iff.mpr ⟨sql, given, Or.inr ⟨mapped, rfl⟩⟩)
  · rintro unreadable request read
    obtain ⟨sql, given, -⟩ := ofJson?_object_eq_some_iff.mp read
    exact unreadable ⟨sql, given⟩

end

end Request

/-! ## Answers -/

namespace Renamer

variable {renamer : Renamer} {text : String} {members : List (String × Json)}

theorem notBlank?_eq_some_iff {given : Option String} {sql : String} :
    notBlank? given = some sql ↔ given = some sql ∧ (Text.trim sql).isEmpty = false := by
  simp [notBlank?, Option.filter_eq_some_iff]

/-- The answer is a list of tables exactly if the tables of a text that is not blank were asked for
and can be told. -/
theorem respond_eq_extracted_iff {request : Request} {tables : List String} {message : String} :
    renamer.respond request = .extracted (some tables) true message ↔
      ∃ sql, request = .extract (some sql) ∧ (Text.trim sql).isEmpty = false ∧
        renamer.tables sql = .ok tables ∧ message = "Success" := by
  cases request with
  | replace given mapping =>
      simp only [respond, reduceCtorEq, false_and, exists_false, iff_false]
      repeat' split
      all_goals exact Response.noConfusion
  | extract given =>
      cases asked : notBlank? given with
      | none =>
          simp only [respond, asked, Response.extracted.injEq, reduceCtorEq, false_and,
            Request.extract.injEq, false_iff, not_exists, not_and]
          intro sql same filled
          rw [notBlank?_eq_some_iff.mpr ⟨same, filled⟩] at asked
          cases asked
      | some sql =>
          obtain ⟨rfl, filled⟩ := notBlank?_eq_some_iff.mp asked
          cases told : renamer.tables sql with
          | error error => simp [respond, asked, told]
          | ok names =>
              constructor
              · intro answered
                simp only [respond, asked, told, Response.extracted.injEq, Option.some.injEq,
                  true_and] at answered
                obtain ⟨rfl, rfl⟩ := answered
                exact ⟨sql, rfl, filled, told, rfl⟩
              · rintro ⟨_, ⟨⟩, -, known, rfl⟩
                rw [told] at known
                cases known
                simp only [respond, asked, told]

/-- What becomes of a text that is a JSON object. It is a renaming if it gives a text to work on and
a mapping; it is the request for the tables, although it may well have a member `tableMapping`, if
it gives the former but not the latter; and it is no request if it does not give the former. The
tables are told in the second case only. -/
theorem read_and_respond_object (renamer : Renamer) (body : Json.members? text = some members) :
    (∀ sql mapping, Request.read text = .ok (.replace sql mapping) ↔
      Request.TextMember members sql ∧ Request.MappingMember members mapping) ∧
    (∀ sql, Request.read text = .ok (.extract sql) ↔
      Request.TextMember members sql ∧ ¬ ∃ mapping, Request.MappingMember members mapping) ∧
    (∀ error, Request.read text = .error error ↔
      (¬ ∃ sql, Request.TextMember members sql) ∧ error = .unknownShape) ∧
    ∀ tables, (∃ request message, Request.read text = .ok request ∧
        renamer.respond request = .extracted (some tables) true message) ↔
      (∃ sql, Request.TextMember members (some sql) ∧ (Text.trim sql).isEmpty = false ∧
        renamer.tables sql = .ok tables) ∧
      ¬ ∃ mapping, Request.MappingMember members mapping := by
  have extracts : ∀ sql, Request.read text = .ok (.extract sql) ↔
      Request.TextMember members sql ∧ ¬ ∃ mapping, Request.MappingMember members mapping := by
    intro sql
    rw [Request.read_eq_ok_iff body, Request.ofJson?_object_eq_some_iff]
    constructor
    · rintro ⟨other, given, ⟨mapping, mapped, ⟨⟩⟩ | ⟨unmapped, ⟨⟩⟩⟩
      exact ⟨given, unmapped⟩
    · rintro ⟨given, unmapped⟩
      exact ⟨sql, given, Or.inr ⟨unmapped, rfl⟩⟩
  refine ⟨?_, extracts, ?_, ?_⟩
  · intro sql mapping
    rw [Request.read_eq_ok_iff body, Request.ofJson?_object_eq_some_iff]
    constructor
    · rintro ⟨other, given, ⟨mapping, mapped, ⟨⟩⟩ | ⟨unmapped, ⟨⟩⟩⟩
      exact ⟨given, mapped⟩
    · rintro ⟨given, mapped⟩
      exact ⟨sql, given, Or.inl ⟨mapping, mapped, rfl⟩⟩
  · intro error
    rw [Request.read_eq_error_iff body, Request.ofJson?_object_eq_none_iff]
  · intro tables
    constructor
    · rintro ⟨request, message, read, answered⟩
      obtain ⟨sql, rfl, filled, told, -⟩ := respond_eq_extracted_iff.mp answered
      obtain ⟨given, unmapped⟩ := (extracts (some sql)).mp read
      exact ⟨⟨sql, given, filled, told⟩, unmapped⟩
    · rintro ⟨⟨sql, given, filled, told⟩, unmapped⟩
      exact ⟨.extract (some sql), "Success", (extracts (some sql)).mpr ⟨given, unmapped⟩,
        respond_eq_extracted_iff.mpr ⟨sql, rfl, filled, told, rfl⟩⟩

/-- A mapping that is null is passed over, and the tables are told. -/
theorem read_and_respond_object_null :
    let text := "\x7b\"sql\": \"SELECT * FROM t\", \"tableMapping\": null\x7d"
    ∃ members, Json.members? text = some members ∧
      Request.keys members = ["sql", "tableMapping"] ∧
      Request.TextMember members (some "SELECT * FROM t") ∧
      (¬ ∃ mapping, Request.MappingMember members mapping) ∧
      ∃ request message, Request.read text = .ok request ∧
        default.respond request = .extracted (some ["t"]) true message := by
  intro text
  have listed : (Json.members? text).map Request.keys = some ["sql", "tableMapping"] := by
    decide +kernel
  obtain ⟨members, body, keys⟩ := Option.map_eq_some_iff.mp listed
  obtain ⟨-, extracts, -, answers⟩ := read_and_respond_object default body
  obtain ⟨given, unmapped⟩ := (extracts (some "SELECT * FROM t")).mp (by decide +kernel)
  refine ⟨members, body, keys, given, unmapped, (answers ["t"]).mpr ⟨?_, unmapped⟩⟩
  exact ⟨"SELECT * FROM t", given, by decide +kernel, by decide +kernel⟩

end Renamer

end SqlTables
