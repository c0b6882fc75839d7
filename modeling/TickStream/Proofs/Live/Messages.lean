import TickStream.Proofs.Live.Steps
/-
Control lines that say what was asked for.  Main statement: a request is one line with the pairs
it was made of exactly if none of its values has a bar or a newline, and the last does not end in
a carriage return; and the symbols are found again exactly if in addition none has a comma.
Nothing looks for such characters when a request is written.
-/
namespace TickStream
namespace Live

/-! ## Pairs in a line -/

/-- A pair as it is written. -/
def part (field : String × String) : List Char := field.1.toList ++ '=' :: field.2.toList

def render (fields : List (String × String)) : String :=
  String.ofList (Text.join '|' (fields.map part) ++ ['\n'])

/-- A text that ends neither a pair nor a line. -/
structure Plain (text : String) : Prop where
  newline : '\n' ∉ text.toList
  bar : '|' ∉ text.toList

theorem Plain.of_append {text : String} {init tail : List Char} (h : Plain text)
    (htext : text.toList = init ++ tail) : Plain (String.ofList init) := by
  constructor
  · intro hmem
    rw [String.toList_ofList] at hmem
    exact h.newline (htext ▸ List.mem_append_left _ hmem)
  · intro hmem
    rw [String.toList_ofList] at hmem
    exact h.bar (htext ▸ List.mem_append_left _ hmem)

/-- The line is one message, and it has just these pairs. -/
structure Carries (line : String) (fields : List (String × String)) : Prop where
  once : line.toList.count '\n' = 1
  last : line.toList.getLast? = some '\n'
  pairs : pairs line = fields

/-- A key is read up to the first equals sign. -/
structure IsKey (key : String) : Prop extends Plain key where
  equals : '=' ∉ key.toList

instance : DecidablePred Plain := fun text =>
  decidable_of_iff ('\n' ∉ text.toList ∧ '|' ∉ text.toList)
    ⟨fun h => ⟨h.1, h.2⟩, fun h => ⟨h.newline, h.bar⟩⟩

instance : DecidablePred IsKey := fun key =>
  decidable_of_iff (Plain key ∧ '=' ∉ key.toList) ⟨fun h => ⟨h.1, h.2⟩, fun h => ⟨h.1, h.2⟩⟩

section

variable {fields front : List (String × String)} {field : String × String} {key value : String}

theorem isKey_of_keys (h : ∀ key ∈ fields.map Prod.fst, IsKey key) :
    ∀ field ∈ fields, IsKey field.1 := List.forall_mem_map.1 h

theorem pair?_part (h : IsKey field.1) : pair? (part field) = some field := by
  have hkey : ∀ c ∈ field.1.toList, decide (c ≠ '=') = true := by
    intro c hc
    rw [decide_eq_true_eq]
    intro heq
    exact h.equals (heq ▸ hc)
  rw [pair?, part, List.dropWhile_append_of_pos hkey, List.takeWhile_append_of_pos hkey]
  simp

/-- No value that is read off a line has a bar. -/
theorem bar_not_mem_of_mem_pairs {line : String} (h : field ∈ pairs line) :
    '|' ∉ field.2.toList := by
  obtain ⟨part, hpart, hpair⟩ := List.mem_filterMap.1 h
  have hbar := Text.not_mem_of_mem_split hpart
  rw [pair?] at hpair
  split at hpair
  · cases hpair
  · rename_i c value hdrop
    cases hpair
    intro hmem
    rw [String.toList_ofList] at hmem
    apply hbar
    apply (List.dropWhile_suffix _).subset
    rw [hdrop]
    exact List.mem_cons_of_mem _ hmem

theorem pairs_of_join {line : String} (hkeys : ∀ field ∈ fields, IsKey field.1)
    (hplain : ∀ field ∈ fields, Plain field.2) (hne : fields ≠ [])
    (h : stripLineEnd line = Text.join '|' (fields.map part)) : pairs line = fields := by
  have hbars : ∀ text ∈ fields.map part, '|' ∉ text := by
    intro text htext
    obtain ⟨field, hfield, rfl⟩ := List.mem_map.1 htext
    have hkey := (hkeys field hfield).bar
    have hvalue := (hplain field hfield).bar
    simp [part, hkey, hvalue]
  have hpairs : fields.filterMap (pair? ∘ part) = fields.filterMap some :=
    List.filterMap_congr fun field hfield => pair?_part (hkeys field hfield)
  rw [pairs, h, Text.split_join (by simpa using hne) hbars, List.filterMap_map, hpairs,
    List.filterMap_some]

theorem stripLineEnd_ofList (body : List Char) :
    stripLineEnd (String.ofList (body ++ ['\n'])) =
      if body.getLast? = some '\r' then body.dropLast else body := by
  rw [stripLineEnd, String.toList_ofList, stripNewline, List.getLast?_concat, if_pos rfl,
    List.dropLast_concat]

theorem count_render_iff (hkeys : ∀ field ∈ fields, IsKey field.1) :
    (render fields).toList.count '\n' = 1 ↔ ∀ field ∈ fields, '\n' ∉ field.2.toList := by
  rw [render, String.toList_ofList, List.count_append, List.count_singleton_self,
    Nat.add_eq_right, List.count_eq_zero, Text.mem_join_iff (by decide)]
  constructor
  · intro h field hfield hmem
    refine h ⟨part field, List.mem_map_of_mem hfield, ?_⟩
    exact List.mem_append_right _ (List.mem_cons_of_mem _ hmem)
  · intro h hmem
    obtain ⟨text, htext, hmem⟩ := hmem
    obtain ⟨field, hfield, rfl⟩ := List.mem_map.1 htext
    have hkey := (hkeys field hfield).newline
    have hvalue := h field hfield
    simp [part, hkey, hvalue] at hmem

theorem join_concat_part (front : List (String × String)) (key value : String) :
    Text.join '|' ((front ++ [(key, value)]).map part) =
      (front.map part).flatMap (· ++ ['|']) ++ key.toList ++ ['='] ++ value.toList := by
  rw [List.map_append, List.map_singleton, Text.join_concat, part]
  simp

theorem getLast?_join_iff (front : List (String × String)) (key value : String) :
    (Text.join '|' ((front ++ [(key, value)]).map part)).getLast? = some '\r' ↔
      value.toList.getLast? = some '\r' := by
  rw [List.map_append, List.map_singleton, Text.getLast?_join_iff (by decide), part,
    List.getLast?_append, List.getLast?_cons]
  cases value.toList.getLast? with
  | none => exact iff_of_false (fun h => absurd (Option.some.inj h) (by decide)) nofun
  | some d => rfl

/-- A carriage return behind the last value is taken for the end of the line. -/
theorem pairs_render_of_carriageReturn {init : List Char}
    (hkeys : ∀ field ∈ front ++ [(key, value)], IsKey field.1)
    (hplain : ∀ field ∈ front ++ [(key, value)], Plain field.2)
    (hinit : value.toList = init ++ ['\r']) :
    pairs (render (front ++ [(key, value)])) = front ++ [(key, String.ofList init)] := by
  have hlast : value.toList.getLast? = some '\r' := by rw [hinit, List.getLast?_concat]
  have hshort : stripLineEnd (render (front ++ [(key, value)])) =
      Text.join '|' ((front ++ [(key, String.ofList init)]).map part) := by
    rw [render, stripLineEnd_ofList, if_pos ((getLast?_join_iff _ _ _).2 hlast),
      join_concat_part, join_concat_part, hinit, ← List.append_assoc, List.dropLast_concat,
      String.toList_ofList]
  have hsame : ∀ field ∈ front ++ [(key, String.ofList init)],
      IsKey field.1 ∧ Plain field.2 := by
    intro field hfield
    obtain hfront | hend := List.mem_append.1 hfield
    · have hmem := List.mem_append_left [(key, value)] hfront
      exact ⟨hkeys field hmem, hplain field hmem⟩
    · have hmem : (key, value) ∈ front ++ [(key, value)] := by simp
      rw [List.mem_singleton.1 hend]
      exact ⟨hkeys (key, value) hmem, (hplain (key, value) hmem).of_append hinit⟩
  exact pairs_of_join (fun field h => (hsame field h).1) (fun field h => (hsame field h).2)
    (by simp) hshort

theorem carries_render_iff (hkeys : ∀ field ∈ front ++ [(key, value)], IsKey field.1) :
    Carries (render (front ++ [(key, value)])) (front ++ [(key, value)]) ↔
      (∀ field ∈ front ++ [(key, value)], Plain field.2) ∧
        value.toList.getLast? ≠ some '\r' := by
  constructor
  · intro h
    have hplain : ∀ field ∈ front ++ [(key, value)], Plain field.2 := by
      intro field hfield
      refine ⟨(count_render_iff hkeys).1 h.once field hfield, ?_⟩
      rw [← h.pairs] at hfield
      exact bar_not_mem_of_mem_pairs hfield
    refine ⟨hplain, fun hlast => ?_⟩
    obtain ⟨init, hinit⟩ := List.getLast?_eq_some_iff.1 hlast
    have hpairs := h.pairs.symm.trans (pairs_render_of_carriageReturn hkeys hplain hinit)
    have hvalue : value = String.ofList init := by simpa using hpairs
    rw [hvalue, String.toList_ofList] at hinit
    exact absurd hinit (by simp)
  · intro h
    obtain ⟨hplain, hlast⟩ := h
    have hopen : stripLineEnd (render (front ++ [(key, value)])) =
        Text.join '|' ((front ++ [(key, value)]).map part) := by
      rw [render, stripLineEnd_ofList, if_neg fun h => hlast ((getLast?_join_iff _ _ _).1 h)]
    refine ⟨(count_render_iff hkeys).2 fun field hfield => (hplain field hfield).newline, ?_,
      pairs_of_join hkeys hplain (by simp) hopen⟩
    rw [render, String.toList_ofList, List.getLast?_concat]

end

/-! ## Values that are always plain -/

theorem plain_ofList {cs : List Char} (h : ∀ c ∈ cs, c ≠ '\n' ∧ c ≠ '|') :
    Plain (String.ofList cs) := by
  constructor
  · rw [String.toList_ofList]
    exact fun hmem => (h _ hmem).1 rfl
  · rw [String.toList_ofList]
    exact fun hmem => (h _ hmem).2 rfl

theorem plain_append_iff {a b : String} : Plain (a ++ b) ↔ Plain a ∧ Plain b := by
  constructor
  · intro h
    have hnewline := h.newline
    have hbar := h.bar
    rw [String.toList_append, List.mem_append, not_or] at hnewline hbar
    exact ⟨⟨hnewline.1, hbar.1⟩, hnewline.2, hbar.2⟩
  · intro h
    constructor
    · rw [String.toList_append, List.mem_append, not_or]
      exact ⟨h.1.newline, h.2.newline⟩
    · rw [String.toList_append, List.mem_append, not_or]
      exact ⟨h.1.bar, h.2.bar⟩

theorem plain_padded (width n : Nat) : Plain (Text.padded width n) := by
  refine plain_ofList fun c hc => ?_
  have hdigit : c.isDigit = true := by
    obtain hzero | hdigits := List.mem_append.1 hc
    · rw [List.eq_of_mem_replicate hzero]
      decide
    · exact Nat.isDigit_of_mem_toDigits (by decide) (by decide) hdigits
  constructor
  · intro h
    exact absurd (h ▸ hdigit) (by decide)
  · intro h
    exact absurd (h ▸ hdigit) (by decide)

theorem plain_hex (bs : Bytes) : Plain bs.hex := by
  have hdigits : ∀ n < 16, Nat.digitChar n ≠ '\n' ∧ Nat.digitChar n ≠ '|' := by decide
  refine plain_ofList fun c hc => ?_
  obtain ⟨b, -, hb⟩ := List.mem_flatMap.1 hc
  have hlt := b.toNat_lt
  rw [List.mem_cons, List.mem_singleton] at hb
  obtain rfl | rfl := hb
  · exact hdigits _ (by omega)
  · exact hdigits _ (Nat.mod_lt _ (by decide))

theorem ApiKey.parse_eq_ok {text : String} {key : ApiKey} (h : ApiKey.parse text = .ok key) :
    key.text = text := by
  rw [ApiKey.parse] at h
  split at h
  · injection h with h
    rw [← h]
  · cases h

theorem plain_reply_iff (key : ApiKey) (token : String) :
    Plain (key.reply token) ↔ Plain key.bucket := by
  have hdash : Plain "-" := by decide
  rw [ApiKey.reply, plain_append_iff, plain_append_iff]
  exact ⟨fun h => h.2, fun h => ⟨⟨plain_hex _, hdash⟩, h⟩⟩

theorem plain_schema (schema : Schema) : Plain schema.name := by
  cases schema <;> decide

theorem plain_symbology (stype : Symbology) : Plain stype.name := by
  cases stype <;> decide

theorem plain_encoding (encoding : Encoding) : Plain encoding.name := by
  cases encoding <;> decide

/-! ## The answer to a challenge -/

namespace Authentication

def fields (a : Authentication) : List (String × String) :=
  [("auth", a.auth), ("dataset", a.dataset), ("encoding", a.encoding.name),
    ("ts_out", if a.tsOut then "1" else "0"), ("client", a.client)]

theorem line_eq_render (a : Authentication) : a.line = render a.fields := by
  apply String.toList_inj.1
  -- The equation lemma of `line` takes seconds to generate, its body does not.
  delta line
  simp [fields, render, Text.join, part]

theorem isKey_of_mem_fields (a : Authentication) : ∀ field ∈ a.fields, IsKey field.1 := by
  apply isKey_of_keys
  show ∀ key ∈ ["auth", "dataset", "encoding", "ts_out", "client"], IsKey key
  decide

theorem carries_iff (a : Authentication) :
    Carries a.line a.fields ↔ Plain a.auth ∧ Plain a.dataset ∧ Plain a.client ∧
      a.client.toList.getLast? ≠ some '\r' := by
  have hflag : Plain (if a.tsOut then "1" else "0") := by
    cases a.tsOut <;> decide
  rw [line_eq_render]
  have hsplit : a.fields = [("auth", a.auth), ("dataset", a.dataset),
      ("encoding", a.encoding.name), ("ts_out", if a.tsOut then "1" else "0")] ++
        [("client", a.client)] := rfl
  have hkeys := a.isKey_of_mem_fields
  rw [hsplit] at hkeys ⊢
  refine (carries_render_iff hkeys).trans ?_
  simp [hflag, plain_encoding, and_assoc]

end Authentication

/-! ## Subscriptions -/

namespace Subscription

variable {sub : Subscription} {line : String}

/-- The pairs of a subscription before its symbols. -/
def front (sub : Subscription) : List (String × String) :=
  [("schema", sub.schema.name), ("stype_in", sub.stypeIn.name)] ++
    (match sub.start with
      | some ts => [("time", Text.padded 1 ts.toNat)]
      | none => []) ++
    if sub.snapshot then [("snapshot", "1")] else []

def fields (sub : Subscription) : List (String × String) :=
  sub.front ++ [("symbols", ",".intercalate sub.symbols)]

theorem line_eq_ok (h : sub.line = .ok line) : sub.symbols ≠ [] ∧ line = render sub.fields := by
  rw [Subscription.line] at h
  by_cases hnone : sub.symbols.isEmpty = true
  · rw [if_pos hnone] at h
    cases h
  rw [if_neg hnone] at h
  injection h with h
  refine ⟨fun hnil => hnone (by rw [hnil]; rfl), ?_⟩
  rw [← h, fields, front]
  apply String.toList_inj.1
  cases sub.start <;> cases sub.snapshot <;> simp [render, Text.join, part]

theorem isKey_of_mem_fields (sub : Subscription) : ∀ field ∈ sub.fields, IsKey field.1 := by
  have hkeys : ∀ key ∈ ["schema", "stype_in", "time", "snapshot", "symbols"], IsKey key := by
    decide
  have hmem : ∀ key ∈ sub.fields.map Prod.fst,
      key ∈ ["schema", "stype_in", "time", "snapshot", "symbols"] := by
    rw [fields, front]
    cases sub.start <;> cases sub.snapshot <;> simp
  exact isKey_of_keys fun key hkey => hkeys key (hmem key hkey)

theorem plain_of_mem_front (sub : Subscription) : ∀ field ∈ sub.front, Plain field.2 := by
  have hone : Plain "1" := by decide
  rw [front]
  cases sub.start <;> cases sub.snapshot <;>
    simp [plain_schema, plain_symbology, plain_padded, hone]

/-- The symbols that are read off a line. -/
def listed (line : String) : Option (List String) :=
  (value? "symbols" (pairs line)).map fun v => (Text.split ',' v.toList).map String.ofList

theorem value?_concat (front : List (String × String)) (key value : String) :
    value? key (front ++ [(key, value)]) = some value := by
  rw [value?, List.reverse_concat, List.find?_cons_of_pos (by simp)]
  rfl

theorem toList_intercalate_comma (symbols : List String) :
    (",".intercalate symbols).toList = Text.join ',' (symbols.map String.toList) := by
  rw [String.toList_intercalate]
  generalize symbols.map String.toList = parts
  induction parts with
  | nil => rfl
  | cons part parts ih =>
    cases parts with
    | nil => exact List.append_nil part
    | cons next parts =>
      rw [Text.join, ← ih]
      rfl

theorem plain_intercalate_iff (symbols : List String) :
    Plain (",".intercalate symbols) ↔ ∀ symbol ∈ symbols, Plain symbol := by
  have hmem {c : Char} (hc : c ≠ ',') : c ∈ (",".intercalate symbols).toList ↔
      ∃ symbol ∈ symbols, c ∈ symbol.toList := by
    rw [toList_intercalate_comma, Text.mem_join_iff hc]
    simp
  constructor
  · intro h symbol hsymbol
    constructor
    · exact fun hc => h.newline ((hmem (by decide)).2 ⟨symbol, hsymbol, hc⟩)
    · exact fun hc => h.bar ((hmem (by decide)).2 ⟨symbol, hsymbol, hc⟩)
  · intro h
    constructor
    · intro hc
      obtain ⟨symbol, hsymbol, hc⟩ := (hmem (by decide)).1 hc
      exact (h symbol hsymbol).newline hc
    · intro hc
      obtain ⟨symbol, hsymbol, hc⟩ := (hmem (by decide)).1 hc
      exact (h symbol hsymbol).bar hc

theorem listed_iff {sub : Subscription} {line : String} (hne : sub.symbols ≠ [])
    (h : pairs line = sub.fields) :
    listed line = some sub.symbols ↔ ∀ symbol ∈ sub.symbols, ',' ∉ symbol.toList := by
  rw [listed, h, Subscription.fields, value?_concat, Option.map_some, Option.some_inj,
    toList_intercalate_comma]
  have hne' : sub.symbols.map String.toList ≠ [] := by simpa using hne
  rw [← List.forall_mem_map (P := fun text => ',' ∉ text), ← Text.split_join_iff hne']
  constructor
  · intro h
    have hparts := congrArg (List.map String.toList) h
    rw [List.map_map] at hparts
    simpa using hparts
  · intro h
    rw [h, List.map_map]
    simp

theorem carries_iff (h : sub.line = .ok line) :
    Carries line sub.fields ↔ (∀ symbol ∈ sub.symbols, Plain symbol) ∧
      ∀ last, sub.symbols.getLast? = some last → last.toList.getLast? ≠ some '\r' := by
  obtain ⟨hne, rfl⟩ := line_eq_ok h
  refine (carries_render_iff sub.isKey_of_mem_fields).trans ?_
  have hplain : (∀ field ∈ sub.fields, Plain field.2) ↔ ∀ symbol ∈ sub.symbols, Plain symbol := by
    rw [fields, List.forall_mem_append, List.forall_mem_singleton, plain_intercalate_iff]
    exact and_iff_right sub.plain_of_mem_front
  have hlast : (",".intercalate sub.symbols).toList.getLast? ≠ some '\r' ↔
      ∀ last, sub.symbols.getLast? = some last → last.toList.getLast? ≠ some '\r' := by
    obtain hnil | ⟨init, last, hconcat⟩ := List.eq_nil_or_concat sub.symbols
    · exact absurd hnil hne
    · rw [toList_intercalate_comma, hconcat, List.concat_eq_append, List.map_append,
        List.map_singleton, Ne, Text.getLast?_join_iff (by decide), List.getLast?_concat]
      simp
  exact and_congr hplain hlast

end Subscription

/-- What is sent, read by the rules for what is received, says what was meant, exactly if
none of its texts breaks up the line.  A carriage return does so at the end of the line
alone.  Symbols are told apart again exactly if none of them has a comma. -/
theorem messages_faithful_iff {settings : Settings} {key : ApiKey}
    (h : settings.validate = .ok key) (token : String) :
    (∃ auth, settings.authentication token = .ok auth ∧
      (Carries auth.line [("auth", key.reply token), ("dataset", settings.dataset),
          ("encoding", settings.encoding.name), ("ts_out", if settings.tsOut then "1" else "0"),
          ("client", settings.client)] ↔
        Plain key.bucket ∧ Plain settings.dataset ∧ Plain settings.client ∧
          settings.client.toList.getLast? ≠ some '\r')) ∧
    ∀ (sub : Subscription) (line : String), sub.line = .ok line →
      (Carries line sub.fields ↔
        (∀ symbol ∈ sub.symbols, Plain symbol) ∧
          ∀ last, sub.symbols.getLast? = some last → last.toList.getLast? ≠ some '\r') ∧
      (Carries line sub.fields →
        (Subscription.listed line = some sub.symbols ↔
          ∀ symbol ∈ sub.symbols, ',' ∉ symbol.toList)) := by
  refine ⟨⟨_, Settings.authentication_of_validate h token, ?_⟩, fun sub line hline => ?_⟩
  · have hcarries := Authentication.carries_iff
      ⟨key.reply token, settings.dataset, settings.encoding, settings.tsOut, settings.client⟩
    rw [plain_reply_iff] at hcarries
    exact hcarries
  · have hne := (Subscription.line_eq_ok hline).1
    exact ⟨Subscription.carries_iff hline, fun h => Subscription.listed_iff hne h.pairs⟩

/-- An answer and a subscription of usual texts, which are read as they were meant. -/
theorem messages_faithful_iff_plain :
    let settings := Settings.ofKey "db-0123456789abcdefghijklmnopqrs" "XNAS.ITCH"
    let sub : Subscription := ⟨.trades, .rawSymbol, ["AAPL", "MSFT"], none, true⟩
    ∃ key auth line, settings.validate = .ok key ∧ settings.authentication "abc123" = .ok auth ∧
      sub.line = .ok line ∧
      Carries auth.line [("auth", key.reply "abc123"), ("dataset", "XNAS.ITCH"),
        ("encoding", "dbn"), ("ts_out", "0"), ("client", defaultClient)] ∧
      Carries line [("schema", "trades"), ("stype_in", "raw_symbol"), ("snapshot", "1"),
        ("symbols", "AAPL,MSFT")] ∧
      Subscription.listed line = some ["AAPL", "MSFT"] := by
  intro settings sub
  have hvalid : settings.validate.isOk = true := by decide +kernel
  obtain ⟨key, hkey⟩ := Step.exists_of_isOk hvalid
  obtain ⟨⟨auth, hauth, hanswer⟩, hsubs⟩ := messages_faithful_iff hkey "abc123"
  obtain ⟨hcarries, hlisted⟩ := hsubs sub _ rfl
  have hsub := hcarries.2 (by decide +kernel)
  have hbucket : Plain key.bucket := by
    rw [ApiKey.bucket, ApiKey.parse_eq_ok (Settings.validate_eq_ok hkey).1]
    decide +kernel
  exact ⟨key, auth, _, hkey, hauth, rfl, hanswer.2 ⟨hbucket, by decide, by decide, by decide⟩,
    hsub, (hlisted hsub).2 (by decide)⟩

/-- A symbol adds a pair, another message or another symbol. -/
theorem symbol_adds_pair :
    let ask (symbol : String) : Subscription := ⟨.trades, .rawSymbol, [symbol], none, false⟩
    (∃ line, (ask "A|snapshot=1").line = .ok line ∧
      pairs line = [("schema", "trades"), ("stype_in", "raw_symbol"), ("symbols", "A"),
        ("snapshot", "1")]) ∧
    (∃ line, (ask "A\nstart_session=").line = .ok line ∧ line.toList.count '\n' = 2) ∧
    ∃ line, (ask "A,B").line = .ok line ∧ Subscription.listed line = some ["A", "B"] := by
  intro ask
  exact ⟨⟨_, rfl, by decide +kernel⟩, ⟨_, rfl, by decide +kernel⟩, _, rfl, by decide +kernel⟩

end Live
end TickStream
