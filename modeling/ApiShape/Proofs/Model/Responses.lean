import ApiShape.Model.Responses
import ApiShape.Normalize.Basic
import ApiShape.Proofs.Document.DistinctNames

/-!
# Where responses go

Every response goes by its code: to the successes, to the errors, to neither, or, if it is the default,
by what else there is and by what it mentions. Both groups keep the order of the responses, except that the
default comes last.
-/

namespace ApiShape

/-! ## Words in texts -/

theorem Text.holds_iff_infix {word cs : List Char} : holds word cs = true ↔ word <:+: cs := by
  induction cs with
  | nil => rw [holds, List.isEmpty_iff, List.infix_nil]
  | cons c rest ih =>
    rw [holds, Bool.or_eq_true, ih, List.isPrefixOf_iff_prefix, List.infix_cons_iff]

/-! ## Codes -/

/-- The code starts with the digit. -/
def StartsWith (digit : Char) (code : String) : Prop :=
  code.toList.head? = some digit

instance (digit : Char) (code : String) : Decidable (StartsWith digit code) :=
  inferInstanceAs (Decidable (_ = _))

theorem StartsWith.unique {a b : Char} {code : String} (ha : StartsWith a code)
    (hb : StartsWith b code) : a = b :=
  Option.some.inj (ha.symm.trans hb)

/-- The code is neither the default nor starts with the digit of a group. -/
def IsOdd (code : String) : Prop :=
  code ≠ "default" ∧ ∀ digit ∈ ['1', '2', '3', '4', '5'], ¬ StartsWith digit code

-- The digits are checked one by one, as there are too many characters to check them all.
instance (code : String) : Decidable (IsOdd code) :=
  have := List.decidableBAll (fun digit => ¬ StartsWith digit code) ['1', '2', '3', '4', '5']
  inferInstanceAs (Decidable (_ ∧ _))

theorem not_startsWith_default {digit : Char} (h : digit ≠ 'd') : ¬ StartsWith digit "default" := by
  intro hdigit
  exact h (Option.some.inj hdigit).symm

namespace StatusGroup

/-- The digit that codes of a group start with; the default has a name instead. -/
def digit? : StatusGroup → Option Char
  | .informational => some '1'
  | .success => some '2'
  | .redirection => some '3'
  | .clientError => some '4'
  | .serverError => some '5'
  | .default => none

theorem ofCode?_default : ofCode? "default" = some .default :=
  rfl

/-- A code other than the default is of the group whose digit it starts with. -/
theorem ofCode?_eq_some_iff {code : String} {g : StatusGroup} (h : code ≠ "default") :
    ofCode? code = some g ↔ ∃ digit ∈ g.digit?, StartsWith digit code := by
  unfold ofCode? StartsWith
  rw [if_neg h]
  cases hcode : code.toList with
  | nil => cases g <;> simp [digit?]
  | cons c rest =>
    split
    -- The first character is the digit of one group only.
    case h_1 | h_2 | h_3 | h_4 | h_5 =>
      rename_i heq
      rw [(List.cons.inj heq).1]
      cases g <;> simp [digit?]
    -- A character that is the digit of no group is of no use to any.
    case h_6 h1 h2 h3 h4 h5 =>
      refine iff_of_false nofun ?_
      rintro ⟨digit, hdigit, hc⟩
      obtain rfl : c = digit := Option.some.inj hc
      cases g with
      | informational => exact h1 rest (by rw [← Option.some.inj hdigit])
      | success => exact h2 rest (by rw [← Option.some.inj hdigit])
      | redirection => exact h3 rest (by rw [← Option.some.inj hdigit])
      | clientError => exact h4 rest (by rw [← Option.some.inj hdigit])
      | serverError => exact h5 rest (by rw [← Option.some.inj hdigit])
      | default => cases hdigit

theorem ofCode?_eq_default_iff {code : String} : ofCode? code = some .default ↔ code = "default" := by
  constructor
  · intro h
    by_contra hne
    obtain ⟨digit, hdigit, -⟩ := (ofCode?_eq_some_iff hne).1 h
    cases hdigit
  · rintro rfl
    rfl

theorem ofCode?_eq_some_iff_startsWith {code : String} {g : StatusGroup} {digit : Char}
    (hdigit : g.digit? = some digit) : ofCode? code = some g ↔ StartsWith digit code := by
  by_cases h : code = "default"
  · subst h
    have hd : digit ≠ 'd' := by
      rintro rfl
      cases g <;> cases hdigit
    refine iff_of_false ?_ (not_startsWith_default hd)
    rintro ⟨⟩
    cases hdigit
  · rw [ofCode?_eq_some_iff h, hdigit]
    simp

theorem ofCode?_eq_none_iff {code : String} : ofCode? code = none ↔ IsOdd code := by
  constructor
  · intro hnone
    refine ⟨fun h => ?_, fun digit hdigit hstarts => ?_⟩
    · rw [ofCode?_eq_default_iff.2 h] at hnone
      cases hnone
    · have hgroup : ∃ g : StatusGroup, g.digit? = some digit := by
        simp only [List.mem_cons, List.not_mem_nil, or_false] at hdigit
        rcases hdigit with rfl | rfl | rfl | rfl | rfl
        · exact ⟨informational, rfl⟩
        · exact ⟨success, rfl⟩
        · exact ⟨redirection, rfl⟩
        · exact ⟨clientError, rfl⟩
        · exact ⟨serverError, rfl⟩
      obtain ⟨g, hg⟩ := hgroup
      rw [(ofCode?_eq_some_iff_startsWith hg).2 hstarts] at hnone
      cases hnone
  · rintro ⟨hne, hdigits⟩
    cases hcode : ofCode? code with
    | none => rfl
    | some g =>
      obtain ⟨digit, hdigit, hstarts⟩ := (ofCode?_eq_some_iff hne).1 hcode
      refine absurd hstarts (hdigits digit ?_)
      cases g <;> cases hdigit <;> decide

theorem any_success_iff {code : String} :
    (ofCode? code).any [success].contains = true ↔ StartsWith '2' code := by
  rw [← ofCode?_eq_some_iff_startsWith (g := success) rfl]
  simp [Option.any_eq_true]

theorem any_error_iff {code : String} :
    (ofCode? code).any [clientError, serverError].contains = true ↔
      StartsWith '4' code ∨ StartsWith '5' code := by
  rw [← ofCode?_eq_some_iff_startsWith (g := clientError) rfl,
    ← ofCode?_eq_some_iff_startsWith (g := serverError) rfl]
  cases ofCode? code <;> simp

end StatusGroup

namespace Model

variable {ε : Type} {config : Config} {location : String} {responses : Dict Response}

/-! ## Filing -/

/-- The schemas of responses, by code. -/
def byCode (responses : Dict Response) : Dict Node :=
  responses.map fun e => (e.1, e.2.schema)

/-- The responses whose codes are of some groups. -/
def ofGroups (groups : List StatusGroup) (responses : Dict Response) : Dict Response :=
  responses.filter fun e => (StatusGroup.ofCode? e.1).any groups.contains

/-- What is recorded about responses whose codes are of no group. -/
def oddCodes (location : String) (responses : Dict Response) : List Diagnostic :=
  (responses.filter fun e => IsOdd e.1).map fun e =>
    { kind := .unrecognizedStatusCode
      message := "`" ++ e.1 ++ "` isn't a status code, range, or `default`"
      location := location ++ "/" ++ Pointer.escape e.1 }

/-- The schemas sorted so far with those of more responses behind them. -/
def Sorted.with (s : Sorted) (responses : Dict Response) : Sorted where
  successes := s.successes ++ byCode (ofGroups [.success] responses)
  errors := s.errors ++ byCode (ofGroups [.clientError, .serverError] responses)
  default := ((responses.get? "default").map (·.schema)).or s.default

/-- A response is filed behind the others of its group, if its code is new. -/
theorem Sorted.file_eq {s : Sorted} {e : String × Response} (hsuccess : e.1 ∉ s.successes.keys)
    (herror : e.1 ∉ s.errors.keys) :
    (s.file location e.1 e.2.schema : Report ε Sorted) =
      ⟨oddCodes location [e], .ok (s.with [e])⟩ := by
  obtain ⟨code, r⟩ := e
  have hdefault : StatusGroup.ofCode? code = some .default ↔ code = "default" :=
    StatusGroup.ofCode?_eq_default_iff
  unfold Sorted.file Sorted.with oddCodes
  rw [Dict.insert_of_notMem hsuccess, Dict.insert_of_notMem herror]
  dsimp only at hsuccess herror ⊢
  cases hg : StatusGroup.ofCode? code with
  | none =>
    have hne : code ≠ "default" := fun h => by rw [hdefault.2 h] at hg; cases hg
    simp [hg, ← StatusGroup.ofCode?_eq_none_iff, ofGroups, byCode, Dict.get?, hne]
    rfl
  | some g =>
    rw [hg, Option.some.injEq] at hdefault
    cases g with
    | default =>
      obtain rfl := hdefault.1 rfl
      simp [hg, ← StatusGroup.ofCode?_eq_none_iff, ofGroups, byCode, Dict.get?]
      rfl
    | _ =>
      have hne : code ≠ "default" := fun h => by cases hdefault.2 h
      simp [hg, ← StatusGroup.ofCode?_eq_none_iff, ofGroups, byCode, Dict.get?, hne]
      rfl

theorem ofGroups_cons (groups : List StatusGroup) (e : String × Response) (rest : Dict Response) :
    ofGroups groups (e :: rest) = ofGroups groups [e] ++ ofGroups groups rest :=
  List.filter_append [e] rest

theorem keys_byCode (responses : Dict Response) : (byCode responses).keys = responses.keys := by
  unfold byCode Dict.keys
  rw [List.map_map]
  rfl

theorem byCode_sublist {groups : List StatusGroup} (h : groups.contains .default = false) :
    (byCode (ofGroups groups responses)).Sublist
      (byCode (responses.filter fun e => e.1 ≠ "default")) := by
  refine List.Sublist.map _ (List.monotone_filter_right _ fun e he => decide_eq_true fun hdefault => ?_)
  rw [hdefault, StatusGroup.ofCode?_default, Option.any_some, h] at he
  cases he

theorem byCode_append (responses rest : Dict Response) :
    byCode (responses ++ rest) = byCode responses ++ byCode rest :=
  List.map_append

theorem mem_keys_byCode_ofGroups {groups : List StatusGroup} {code : String} :
    code ∈ (byCode (ofGroups groups responses)).keys ↔
      code ∈ responses.keys ∧ (StatusGroup.ofCode? code).any groups.contains = true := by
  unfold byCode ofGroups Dict.keys
  rw [List.map_map, List.mem_map, List.mem_map]
  constructor
  · rintro ⟨e, he, rfl⟩
    obtain ⟨hmem, hgroup⟩ := List.mem_filter.1 he
    exact ⟨⟨e, hmem, rfl⟩, hgroup⟩
  · rintro ⟨⟨e, hmem, rfl⟩, hgroup⟩
    exact ⟨e, List.mem_filter.2 ⟨hmem, hgroup⟩, rfl⟩

theorem keys_append {α : Type} (d d' : Dict α) : Dict.keys (d ++ d') = d.keys ++ d'.keys :=
  List.map_append

theorem Sorted.with_with {s : Sorted} {e : String × Response} {rest : Dict Response}
    (h : e.1 ∉ rest.keys) : (s.with [e]).with rest = s.with (e :: rest) := by
  have hgroup : ∀ groups, byCode (ofGroups groups [e]) ++ byCode (ofGroups groups rest) =
      byCode (ofGroups groups (e :: rest)) := by
    intro groups
    rw [ofGroups_cons groups e rest, byCode_append]
  unfold Sorted.with
  dsimp only
  rw [List.append_assoc, List.append_assoc, hgroup, hgroup]
  -- The default does not come again behind itself.
  by_cases hdefault : e.1 = "default"
  · rw [hdefault] at h
    rw [Dict.get?_of_notMem h]
    simp [Dict.get?, hdefault]
  · simp [Dict.get?, hdefault]

/-- Responses with distinct new codes are filed by their groups, in order, and those of no group are
recorded. -/
theorem Sorted.fileAll_eq {s : Sorted} (h : responses.Distinct)
    (hnew : ∀ code ∈ responses.keys, code ∉ s.successes.keys ∧ code ∉ s.errors.keys) :
    (Sorted.fileAll location s responses : Report ε Sorted) =
      ⟨oddCodes location responses, .ok (s.with responses)⟩ := by
  induction responses generalizing s with
  | nil =>
    unfold Sorted.fileAll Sorted.with
    simp [ofGroups, byCode, oddCodes, Dict.get?]
    rfl
  | cons e rest ih =>
    simp only [Dict.Distinct, Dict.keys, List.map_cons, List.nodup_cons] at h
    simp only [Dict.keys, List.map_cons, List.forall_mem_cons] at hnew
    have hrest : ∀ code ∈ Dict.keys rest,
        code ∉ (s.with [e]).successes.keys ∧ code ∉ (s.with [e]).errors.keys := by
      intro code hcode
      have hne : code ∉ Dict.keys [e] := by
        intro hsame
        have heq : code = e.1 := List.mem_singleton.1 hsame
        rw [heq] at hcode
        exact h.1 hcode
      unfold Sorted.with
      simp only [keys_append, List.mem_append, mem_keys_byCode_ofGroups, hne, false_and, or_false]
      exact hnew.2 code hcode
    have hrecorded : oddCodes location (e :: rest) = oddCodes location [e] ++ oddCodes location rest := by
      unfold oddCodes
      rw [← List.map_append, ← List.filter_append, List.singleton_append]
    rw [Sorted.fileAll, Sorted.file_eq hnew.1.1 hnew.1.2, hrecorded, ← Sorted.with_with h.1]
    change Report.mk (oddCodes location [e] ++
        (Sorted.fileAll location (s.with [e]) rest : Report ε Sorted).diagnostics)
      (Sorted.fileAll location (s.with [e]) rest : Report ε Sorted).result = _
    rw [ih h.2 hrest]

/-! ## Groups -/

/-- The description or the reference of a schema mentions one of the words, in any case. -/
def Mentions (words : List String) (schema : Node) : Prop :=
  ∃ word ∈ words, Text.lower word.toList <:+: Text.lower (schema.docs.description.getD "").toList ∨
    Text.lower word.toList <:+: Text.lower (schema.reference.getD "").toList

theorem mentions_iff {words : List String} {schema : Node} :
    mentions words schema = true ↔ Mentions words schema := by
  unfold mentions Mentions
  simp only [List.any_eq_true, Bool.or_eq_true, Text.holds_iff_infix]

/-- The schema of the default response. -/
def defaults (responses : Dict Response) : Dict Node :=
  byCode (responses.filter fun e => e.1 = "default")

/-- The schemas of responses in order, with the default last. -/
def defaultLast (responses : Dict Response) : Dict Node :=
  byCode (responses.filter fun e => e.1 ≠ "default") ++ defaults responses

/-- How responses fall into successes and errors. A response is a success or an error by the first digit of
its code, or neither. The default is a success if there is no other or if it mentions a word of success,
and an error if it mentions a word of errors or is no success. -/
structure Partitions (config : Config) (responses : Dict Response) (successes errors : Dict Node) :
    Prop where
  successes_sublist : successes.Sublist (defaultLast responses)
  errors_sublist : errors.Sublist (defaultLast responses)
  success : ∀ code ∈ responses.keys, StartsWith '2' code →
    code ∈ successes.keys ∧ code ∉ errors.keys
  error : ∀ code ∈ responses.keys, StartsWith '4' code ∨ StartsWith '5' code →
    code ∉ successes.keys ∧ code ∈ errors.keys
  default_success : ∀ r, ("default", r) ∈ responses →
    ("default" ∈ successes.keys ↔
      (∀ code ∈ responses.keys, ¬ StartsWith '2' code) ∨ Mentions config.successKeywords r.schema)
  default_error : ∀ r, ("default", r) ∈ responses →
    ("default" ∈ errors.keys ↔
      "default" ∉ successes.keys ∨ Mentions config.errorKeywords r.schema)
  neither : ∀ code ∈ responses.keys, code ≠ "default" →
    (∀ digit ∈ ['2', '4', '5'], ¬ StartsWith digit code) →
    code ∉ successes.keys ∧ code ∉ errors.keys

/-- What a group of schemas comes to: an object that requires all of them, if there are any, and their
union, if it says anything. -/
structure Groups (schemas : Dict Node) (object union : Option Node) : Prop where
  object : ∀ n, object = some n ↔
    schemas ≠ [] ∧ n = { type := some .object, properties := schemas, required := schemas.keys }
  union : ∀ n, union = some n ↔
    schemas ≠ [] ∧ n = Node.dedupe (Node.composition .or schemas.values) ∧
      n.isEmpty = false ∧ n.type ≠ some .unknown

theorem groups_self (schemas : Dict Node) :
    Groups schemas (groupObject schemas) (groupUnion schemas) := by
  unfold groupObject groupUnion
  by_cases hempty : schemas = []
  · subst hempty
    constructor
    · intro n
      simp
    · intro n
      simp
  · rw [if_neg (mt List.isEmpty_iff.1 hempty), if_neg (mt List.isEmpty_iff.1 hempty)]
    constructor
    · intro n
      rw [and_iff_right hempty, Option.some.injEq]
      exact eq_comm
    · intro n
      rw [and_iff_right hempty]
      dsimp only
      split
      · rename_i hsilent
        refine iff_of_false nofun ?_
        rintro ⟨rfl, hmentions, htype⟩
        rw [hmentions, Bool.false_or, beq_iff_eq] at hsilent
        exact htype hsilent
      · rename_i hmentions
        rw [Bool.or_eq_true, not_or, beq_iff_eq, Bool.not_eq_true] at hmentions
        rw [Option.some.injEq]
        constructor
        · rintro rfl
          exact ⟨rfl, hmentions⟩
        · rintro ⟨rfl, -⟩
          rfl

/-! ## The default -/

variable {more other : Dict Node} {digit : Char} {code : String}

theorem eq_default_of_mem_keys (hmore : more.Sublist (defaults responses)) (hcode : code ∈ more.keys) :
    code = "default" := by
  have hmem := (hmore.map (·.1)).subset hcode
  change code ∈ (byCode _).keys at hmem
  rw [keys_byCode] at hmem
  obtain ⟨e, he, rfl⟩ := List.mem_map.1 hmem
  exact of_decide_eq_true (List.mem_filter.1 he).2

/-- The default, which is all that may be added to the groups, is in none of them by a digit. -/
theorem notMem_keys_of_startsWith (hmore : more.Sublist (defaults responses)) (hdigit : digit ≠ 'd')
    (h : StartsWith digit code) : code ∉ more.keys := by
  intro hcode
  rw [eq_default_of_mem_keys hmore hcode] at h
  exact not_startsWith_default hdigit h

theorem mem_keys_successes_append :
    code ∈ Dict.keys (byCode (ofGroups [.success] responses) ++ more) ↔
      (code ∈ responses.keys ∧ StartsWith '2' code) ∨ code ∈ more.keys := by
  rw [keys_append, List.mem_append, mem_keys_byCode_ofGroups, StatusGroup.any_success_iff]

theorem mem_keys_errors_append :
    code ∈ Dict.keys (byCode (ofGroups [.clientError, .serverError] responses) ++ more) ↔
      (code ∈ responses.keys ∧ (StartsWith '4' code ∨ StartsWith '5' code)) ∨ code ∈ more.keys := by
  rw [keys_append, List.mem_append, mem_keys_byCode_ofGroups, StatusGroup.any_error_iff]

theorem default_notMem_keys {groups : List StatusGroup} (h : groups.contains .default = false) :
    "default" ∉ (byCode (ofGroups groups responses)).keys := by
  rw [mem_keys_byCode_ofGroups, StatusGroup.ofCode?_default, Option.any_some, h]
  exact fun hmem => Bool.false_ne_true hmem.2

theorem default_mem_keys_append {groups : List StatusGroup} (h : groups.contains .default = false) :
    "default" ∈ Dict.keys (byCode (ofGroups groups responses) ++ more) ↔ "default" ∈ more.keys := by
  rw [keys_append, List.mem_append]
  exact or_iff_right (default_notMem_keys h)

/-- Groups by digits, to which the default may be added, partition the responses. -/
theorem Partitions.of_defaults (hmore : more.Sublist (defaults responses))
    (hother : other.Sublist (defaults responses))
    (hsuccess : ∀ r, ("default", r) ∈ responses → ("default" ∈ more.keys ↔
      (∀ code ∈ responses.keys, ¬ StartsWith '2' code) ∨ Mentions config.successKeywords r.schema))
    (herror : ∀ r, ("default", r) ∈ responses → ("default" ∈ other.keys ↔
      "default" ∉ more.keys ∨ Mentions config.errorKeywords r.schema)) :
    Partitions config responses (byCode (ofGroups [.success] responses) ++ more)
      (byCode (ofGroups [.clientError, .serverError] responses) ++ other) where
  successes_sublist := (byCode_sublist rfl).append hmore
  errors_sublist := (byCode_sublist rfl).append hother
  success := by
    intro code hcode h2
    refine ⟨mem_keys_successes_append.2 (.inl ⟨hcode, h2⟩), fun hmem => ?_⟩
    rcases mem_keys_errors_append.1 hmem with ⟨-, h4 | h5⟩ | hmem
    · cases h2.unique h4
    · cases h2.unique h5
    · exact notMem_keys_of_startsWith hother (by decide) h2 hmem
  error := by
    intro code hcode h45
    refine ⟨fun hmem => ?_, mem_keys_errors_append.2 (.inl ⟨hcode, h45⟩)⟩
    rcases mem_keys_successes_append.1 hmem with ⟨-, h2⟩ | hmem
    · rcases h45 with h4 | h5
      · cases h2.unique h4
      · cases h2.unique h5
    · rcases h45 with h4 | h5
      · exact notMem_keys_of_startsWith hmore (by decide) h4 hmem
      · exact notMem_keys_of_startsWith hmore (by decide) h5 hmem
  default_success := by
    intro r hr
    rw [default_mem_keys_append rfl, hsuccess r hr]
  default_error := by
    intro r hr
    rw [default_mem_keys_append rfl, default_mem_keys_append rfl, herror r hr]
  neither := by
    intro code hcode hne hdigits
    constructor
    · intro hmem
      rcases mem_keys_successes_append.1 hmem with ⟨-, h2⟩ | hmem
      · exact hdigits '2' (by decide) h2
      · exact hne (eq_default_of_mem_keys hmore hmem)
    · intro hmem
      rcases mem_keys_errors_append.1 hmem with ⟨-, h4 | h5⟩ | hmem
      · exact hdigits '4' (by decide) h4
      · exact hdigits '5' (by decide) h5
      · exact hne (eq_default_of_mem_keys hother hmem)

/-- What the default adds to a group, if it is added. -/
def addition (added : Bool) (r : Response) : Dict Node :=
  if added then [("default", r.schema)] else []

theorem insert_default {schemas : Dict Node} {added : Bool} {r : Response}
    (h : "default" ∉ schemas.keys) :
    (if added then schemas.insert "default" r.schema else schemas) = schemas ++ addition added r := by
  unfold addition
  cases added with
  | true => exact Dict.insert_of_notMem h _
  | false => exact (List.append_nil schemas).symm

theorem addition_sublist {added : Bool} {r : Response} (hr : ("default", r) ∈ responses) :
    (addition added r).Sublist (defaults responses) := by
  unfold addition
  cases added with
  | true =>
    refine List.singleton_sublist.2 (List.mem_map.2 ⟨_, List.mem_filter.2 ⟨hr, ?_⟩, rfl⟩)
    exact decide_eq_true rfl
  | false => exact List.nil_sublist _

theorem default_mem_keys_addition {added : Bool} {r : Response} :
    "default" ∈ (addition added r).keys ↔ added = true := by
  cases added <;> simp [addition, Dict.keys]

theorem isEmpty_successes_iff :
    (byCode (ofGroups [.success] responses)).isEmpty = true ↔
      ∀ code ∈ responses.keys, ¬ StartsWith '2' code := by
  rw [List.isEmpty_iff]
  unfold byCode ofGroups Dict.keys
  rw [List.map_eq_nil_iff, List.filter_eq_nil_iff, List.forall_mem_map]
  simp only [StatusGroup.any_success_iff]

theorem partitions_assignDefault (h : responses.Distinct) :
    Partitions config responses
      ((({} : Sorted).with responses).assignDefault config).successes
      ((({} : Sorted).with responses).assignDefault config).errors := by
  have hsuccesses : (({} : Sorted).with responses).successes =
      byCode (ofGroups [.success] responses) := List.nil_append _
  have herrors : (({} : Sorted).with responses).errors =
      byCode (ofGroups [.clientError, .serverError] responses) := List.nil_append _
  have hdefault : (({} : Sorted).with responses).default =
      (responses.get? "default").map (·.schema) := Option.or_none
  unfold Sorted.assignDefault
  rw [hdefault]
  cases hget : responses.get? "default" with
  | none =>
    -- Nothing is added where there is no default.
    have hnone : ∀ r, ("default", r) ∉ responses := by
      intro r hmem
      rw [Dict.get?_eq_some_of_mem h hmem] at hget
      cases hget
    have hpartitions : Partitions config responses
        (byCode (ofGroups [.success] responses) ++ [])
        (byCode (ofGroups [.clientError, .serverError] responses) ++ []) :=
      .of_defaults (List.nil_sublist _) (List.nil_sublist _)
        (fun r hmem => absurd hmem (hnone r)) (fun r hmem => absurd hmem (hnone r))
    rw [List.append_nil, List.append_nil] at hpartitions
    dsimp only [Option.map_none]
    rw [hsuccesses, herrors]
    exact hpartitions
  | some r =>
    have hr := Dict.mem_of_get?_eq_some hget
    have hunique : ∀ r', ("default", r') ∈ responses → r' = r := by
      intro r' hmem
      rw [Dict.get?_eq_some_of_mem h hmem] at hget
      exact Option.some.inj hget
    dsimp only [Option.map_some]
    rw [hsuccesses, herrors, insert_default (default_notMem_keys rfl),
      insert_default (default_notMem_keys rfl)]
    refine .of_defaults (addition_sublist hr) (addition_sublist hr) ?_ ?_
    · intro r' hr'
      rw [hunique r' hr', default_mem_keys_addition, Bool.or_eq_true, isEmpty_successes_iff,
        mentions_iff]
    · intro r' hr'
      rw [hunique r' hr', default_mem_keys_addition, default_mem_keys_addition, Bool.or_eq_true,
        mentions_iff, Bool.not_eq_true', Bool.not_eq_true]
      exact or_comm

/-! ## Response maps -/

/-- What successes and errors come to. -/
def Sorted.toMap (s : Sorted) : ResponseMap where
  responses := groupObject s.successes
  response := groupUnion s.successes
  errors := groupObject s.errors
  error := groupUnion s.errors

theorem responseMap_eq (h : responses.Distinct) :
    (responseMap config location responses : Report ε ResponseMap) =
      ⟨oddCodes location responses,
        .ok ((({} : Sorted).with responses).assignDefault config).toMap⟩ := by
  have hfile : (Sorted.fileAll location {} responses : Report ε Sorted) =
      ⟨oddCodes location responses, .ok (({} : Sorted).with responses)⟩ :=
    Sorted.fileAll_eq h fun _ _ => ⟨List.not_mem_nil, List.not_mem_nil⟩
  unfold responseMap
  rw [hfile]
  change Report.mk (oddCodes location responses ++ []) _ = _
  rw [List.append_nil]
  rfl

/-- Responses, whose codes are distinct, fall into successes and errors, of which each becomes an object and
a union. Of what is in neither group, the codes that say nothing are recorded, once each. -/
theorem responseMap_partitions (config : Config) (location : String) {responses : Dict Response}
    (h : responses.Distinct) :
    ∃ m successes errors,
      (responseMap config location responses : Report ε ResponseMap) =
        ⟨oddCodes location responses, .ok m⟩ ∧
      Partitions config responses successes errors ∧
      Groups successes m.responses m.response ∧ Groups errors m.errors m.error :=
  ⟨_, _, _, responseMap_eq h, partitions_assignDefault h, groups_self _, groups_self _⟩

/-- What a ferry answers otherwise, which mentions both a success and a problem. -/
def otherwise : Response :=
  { mediaType := none
    schema := { type := some .string, docs := { description := some "SUCCESS, or a Problem" } } }

/-- Responses of all kinds, the default among them. -/
def ferryResponses : Dict Response :=
  [("default", otherwise), ("404", ⟨none, .ofType .number⟩), ("oops", ⟨none, .ofType .boolean⟩),
    ("2XX", ⟨none, .ofType .string⟩), ("301", ⟨none, .ofType .null⟩)]

theorem responseMap_partitions_ferry :
    ferryResponses.Distinct ∧ ∃ m successes errors,
      (responseMap {} "#" ferryResponses : Report NormalizeError ResponseMap) =
        ⟨oddCodes "#" ferryResponses, .ok m⟩ ∧
      (oddCodes "#" ferryResponses).length = 1 ∧
      "2XX" ∈ successes.keys ∧ "404" ∈ errors.keys ∧
      "default" ∈ successes.keys ∧ "default" ∈ errors.keys ∧
      "301" ∉ successes.keys ∧ "301" ∉ errors.keys ∧
      Groups successes m.responses m.response ∧ Groups errors m.errors m.error := by
  have h : ferryResponses.Distinct := by decide
  obtain ⟨m, successes, errors, hm, hpartitions, hsuccesses, herrors⟩ :=
    responseMap_partitions (ε := NormalizeError) {} "#" h
  have hdefault : ("default", otherwise) ∈ ferryResponses := List.mem_cons_self
  have hsuccess : mentions ["success"] otherwise.schema = true := by decide +kernel
  have hproblem : mentions ["error", "problem"] otherwise.schema = true := by decide +kernel
  obtain ⟨hfine, -⟩ := hpartitions.success "2XX" (by decide) (by decide)
  obtain ⟨-, hmissing⟩ := hpartitions.error "404" (by decide) (by decide)
  obtain ⟨hnone, hnone'⟩ := hpartitions.neither "301" (by decide) (by decide) (by simp [StartsWith])
  exact ⟨h, m, successes, errors, hm, by decide +kernel, hfine, hmissing,
    (hpartitions.default_success _ hdefault).2 (.inr (mentions_iff.1 hsuccess)),
    (hpartitions.default_error _ hdefault).2 (.inr (mentions_iff.1 hproblem)),
    hnone, hnone', hsuccesses, herrors⟩

end Model

end ApiShape
