import TickStream.Proofs.Live.Handover
/-
Handshakes that the gateway breaks off.  Main statement: a handshake that ends between two lines
fails as a closed connection, and one that ends inside a line as if that line were too long, or no
text; no session follows from either.
-/
namespace TickStream

open Step

namespace Live

/-- What has come of a control line that is cut off. -/
theorem IsControl.take {line : String} {k : Nat} (h : IsControl line)
    (hk : k < (Bytes.ofString line).length) :
    Session.newline ∉ (Bytes.ofString line).take k ∧
      ((Bytes.ofString line).take k).length < Session.lineLimit := by
  obtain ⟨front, hfront, hnot⟩ := h.whole
  have hshort := h.short
  rw [List.length_take]
  refine ⟨?_, by omega⟩
  rw [hfront, List.length_append, List.length_singleton] at hk
  rw [hfront, List.take_append_of_le_length (Nat.le_of_lt_succ hk)]
  exact fun hmem => hnot (List.mem_of_mem_take hmem)

theorem IsControl.length_pos {line : String} (h : IsControl line) :
    0 < (Bytes.ofString line).length := by
  obtain ⟨front, hfront, -⟩ := h.whole
  rw [hfront, List.length_append, List.length_singleton]
  exact Nat.succ_pos _

namespace Session

variable {s t : Session} {settings : Settings} {key : ApiKey} {fault? : Option IoFault}
  {u : Source} {e : Error} {line hello ask response : String} {verdict : Verdict}
  {bs got rest heard : Bytes} {k : Nat}

/-! ## Long lines -/

/-- Somewhere in what the gateway sends a line begins that goes on for as many bytes as are read
of one, or in which the stream ends. -/
def Unended (heard : Bytes) (fault? : Option IoFault) : Prop :=
  ∃ front line rest, heard = front ++ (line ++ rest) ∧
    (front = [] ∨ front.getLast? = some newline) ∧ newline ∉ line ∧
    (line.length = lineLimit ∨ (line ≠ [] ∧ rest = [] ∧ fault? = none))

theorem Unended.behind (h : Unended rest fault?) (hline : IsControl line) :
    Unended (Bytes.ofString line ++ rest) fault? := by
  obtain ⟨front, open', rest', hbytes, hfront, hopen⟩ := h
  subst hbytes
  refine ⟨Bytes.ofString line ++ front, open', rest', (List.append_assoc _ _ _).symm, ?_, hopen⟩
  obtain ⟨text, htext, -⟩ := hline.whole
  right
  obtain rfl | hlast := hfront
  · rw [List.append_nil, htext, List.getLast?_concat]
  · rw [List.getLast?_append, hlast]
    rfl

/-- A line is called too long only if it has no end within the limit. -/
def Excuses (heard : Bytes) (fault? : Option IoFault) (e : Error) : Prop :=
  ∀ n phase, e = .protocol (.longLine n phase) → n = lineLimit ∧ Unended heard fault?

theorem Excuses.behind (h : Excuses rest fault? e) (hline : IsControl line) :
    Excuses (Bytes.ofString line ++ rest) fault? e := by
  intro n phase he
  obtain ⟨hn, hopen⟩ := h n phase he
  exact ⟨hn, hopen.behind hline⟩

theorem unended_of_readUntil {v : Source} (hread : u.readUntil newline lineLimit = (.ok got, v))
    (hne : got ≠ []) (hlast : got.getLast? ≠ some newline) : Unended u.content u.failure := by
  have hfst := Source.readUntil_fst newline lineLimit u
  rw [hread] at hfst
  obtain ⟨hcontent, -⟩ := Source.content_readUntil hread
  refine ⟨[], got, v.content, hcontent, .inl rfl, ?_⟩
  obtain ⟨front, rfl, -⟩ | ⟨hnot, hlong | ⟨hall, hfailure⟩⟩ := Source.lineOf_eq_ok hfst.symm
  · rw [List.getLast?_concat] at hlast
    exact absurd rfl hlast
  · exact ⟨hnot, .inl hlong⟩
  · rw [← hall] at hcontent
    exact ⟨hnot, .inr ⟨hne, List.self_eq_append_right.1 hcontent, hfailure⟩⟩

theorem controlLine_longLine {n : Nat} {phase phase' : Phase}
    (h : controlLine phase bs = .error (.protocol (.longLine n phase'))) :
    n = lineLimit ∧ bs ≠ [] ∧ bs.getLast? ≠ some newline := by
  rw [controlLine] at h
  split at h
  · cases h
  · rename_i hne
    split at h
    · cases h
    · split at h
      · cases h
      · rename_i hlast
        injection h with h
        injection h with h
        injection h with hn _
        exact ⟨hn.symm, by simpa using hne, hlast⟩

theorem ensures_readLine_excuses (hs : s.connection.incoming = some u) (phase : Phase) :
    Ensures s (readLine phase)
      (fun line t => ∃ v, t.connection.incoming = some v ∧ IsControl line ∧
        u.content = Bytes.ofString line ++ v.content ∧ v.failure = u.failure)
      fun e _ => Excuses u.content u.failure e := by
  cases hr : EStateM.run (readLine phase) s with
  | ok line t =>
    obtain ⟨v, rfl, hline⟩ := (ensures_readLine hs phase).of_ok hr
    exact ensures_of_ok hr ⟨v, rfl, hline⟩
  | error e t =>
    refine ensures_of_error hr fun n phase' he => ?_
    subst he
    rw [run_readLine hs] at hr
    rcases hread : u.readUntil newline lineLimit with ⟨_ | bs, v⟩
    · rw [hread] at hr
      cases hr
    · rw [hread] at hr
      obtain ⟨hn, hne, hlast⟩ := controlLine_longLine (run_ofExcept_eq_error.1 hr).1
      exact ⟨hn, unended_of_readUntil hread hne hlast⟩

/-- A failure that comes of what a line says does not call it too long. -/
abbrev Understands {α : Type} (x : Except Error α) : Prop :=
  ErrsAs (fun e => ∀ n phase, e ≠ .protocol (.longLine n phase)) x

theorem Excuses.of_understands {α : Type} {x : Except Error α} (hx : Understands x)
    (he : x = .error e) : Excuses heard fault? e := by
  intro n phase hlong
  exact absurd hlong (hx he n phase)

theorem understands_value (message name : String) (fields : List (String × String)) :
    Understands (value message name fields) := by
  rw [value]
  split
  · exact errsAs_ok _
  · exact errsAs_error fun n phase h => by cases h

theorem understands_parse (line : String) : Understands (Verdict.parse line) := by
  refine (understands_value _ _ _).bind fun text => ?_
  have hflag : Understands (Verdict.flag text) :=
    (errsAs_ok true).ite ((errsAs_ok false).ite (errsAs_error nofun))
  exact hflag.bind fun success => errsAs_ok _

theorem understands_accept (verdict : Verdict) : Understands verdict.accept :=
  (errsAs_ok _).ite (errsAs_error nofun)

theorem understands_authentication (settings : Settings) (token : String) :
    Understands (settings.authentication token) := by
  have hparse : Understands (ApiKey.parse settings.key) := by
    rw [ApiKey.parse]
    split
    · exact errsAs_ok _
    · exact errsAs_error nofun
  exact hparse.bind fun key => errsAs_ok _

theorem ensures_sendLine_excuses (s : Session) (phase : Phase) (line : String) :
    Ensures s (sendLine phase line) (fun _ t => t.connection.incoming = s.connection.incoming)
      fun e _ => Excuses heard fault? e := by
  cases hr : EStateM.run (sendLine phase line) s with
  | ok x t =>
    obtain ⟨writes, rfl⟩ := (ensures_sendLine s phase line).of_ok hr
    exact ensures_of_ok hr rfl
  | error e t =>
    refine ensures_of_error hr fun n phase' he => ?_
    subst he
    rw [sendLine, bind_ok (run_get s)] at hr
    rcases hsend : s.connection.send (Bytes.ofString line) with ⟨_ | _, connection⟩
    all_goals
      rw [hsend] at hr
      cases hr

/-! ## The parts of a handshake -/

theorem ensures_hearVerdict (hs : s.connection.incoming = some u) :
    Ensures s hearVerdict (fun _ _ => True) fun e _ => Excuses u.content u.failure e := by
  refine (ensures_readLine_excuses hs _).andThen fun response t _ => ?_
  refine ensures_ofExcept_bind (fun e he => .of_understands (understands_parse _) he)
    fun verdict _ => ?_
  refine ensures_ofExcept_bind (fun e he => .of_understands (understands_accept _) he)
    fun id _ => ?_
  exact ensures_modify_bind (ensures_pure trivial)

theorem ensures_answerChallenge (hs : s.connection.incoming = some u) :
    Ensures s answerChallenge (fun _ _ => True) fun e _ => Excuses u.content u.failure e := by
  refine (ensures_readLine_excuses hs _).andThen fun ask t ht => ?_
  obtain ⟨v, hv, hline, hcontent, hfailure⟩ := ht
  refine ensures_ofExcept_bind (fun e he => .of_understands (understands_value _ _ _) he)
    fun token _ => ?_
  refine ensures_get_bind (ensures_ofExcept_bind (fun e he => ?_) fun answer _ => ?_)
  · exact .of_understands (understands_authentication _ _) he
  refine (ensures_sendLine_excuses _ _ _).andThen fun _ t' ht' => ?_
  refine ensures_modify_bind ?_
  rw [hcontent, ← hfailure]
  refine (ensures_hearVerdict ?_).mono (fun _ _ h => h) fun e _ he => he.behind hline
  exact ht'.trans hv

theorem ensures_handshake_excuses (hs : s.connection.incoming = some u) :
    Ensures s handshake (fun _ _ => True) fun e _ => Excuses u.content u.failure e := by
  rw [handshake_eq]
  refine (ensures_readLine_excuses hs _).andThen fun hello t ht => ?_
  obtain ⟨v, hv, hline, hcontent, hfailure⟩ := ht
  refine ensures_ofExcept_bind (fun e he => .of_understands (understands_value _ _ _) he)
    fun version _ => ?_
  refine ensures_modify_bind ?_
  rw [hcontent, ← hfailure]
  refine (ensures_answerChallenge ?_).mono (fun _ _ h => h) fun e _ he => he.behind hline
  exact hv

/-! ## Cuts -/

/-- What is said of a line of which `got` has come when the stream ends. -/
def cutShort (phase : Phase) (got : Bytes) : Error :=
  if got = [] then .transport phase .unexpectedEnd
  else if Bytes.toString? got = none then .transport phase .invalidData
  else .protocol (.longLine lineLimit phase)

/-- The line that is being read when the stream ends after `k` bytes of a handshake, and what has
come of it. -/
def underWay (hello ask response : Bytes) (k : Nat) : Phase × Bytes :=
  if k < hello.length then (.readingGreeting, hello.take k)
  else if k < hello.length + ask.length then (.readingChallenge, ask.take (k - hello.length))
  else (.readingResponse, response.take (k - (hello.length + ask.length)))

theorem external_cutShort (phase : Phase) (got : Bytes) : (cutShort phase got).IsExternal := by
  rw [cutShort]
  split
  · nofun
  · split <;> nofun

theorem cutShort_eq_iff {phase : Phase} :
    cutShort phase got = .transport phase .unexpectedEnd ↔ got = [] := by
  rw [cutShort]
  by_cases hnil : got = []
  · simp [hnil]
  · by_cases htext : Bytes.toString? got = none <;> simp [hnil, htext]

theorem controlLine_cutShort (phase : Phase) (hnot : newline ∉ got) :
    controlLine phase got = .error (cutShort phase got) := by
  have hopen : got.getLast? ≠ some newline := fun hlast => hnot (List.mem_of_getLast? hlast)
  rw [controlLine, cutShort]
  by_cases hnil : got = []
  · subst hnil
    rfl
  · rw [if_neg (by simpa using hnil), if_neg hnil]
    cases htext : Bytes.toString? got with
    | none => rfl
    | some line =>
      simp only [hopen, if_false, reduceCtorEq]

/-- A line that is cut off fails the session as its rest says. -/
theorem Onward.cut (h : s.Onward t got none) (hnot : newline ∉ got)
    (hshort : got.length < lineLimit) (phase : Phase) :
    ∃ v, EStateM.run (readLine phase) t = .error (cutShort phase got) (t.hearing v) := by
  obtain ⟨v, hincoming, rfl, hfailure⟩ := h.incoming
  obtain ⟨u, hread, -⟩ := Source.readUntil_of_rest ⟨rfl, hfailure⟩ hnot hshort
  refine ⟨u, ?_⟩
  rw [run_readLine hincoming, hread]
  exact run_ofExcept_error (controlLine_cutShort phase hnot) _

/-- A handshake that the gateway breaks off fails at the line that is under way, and the session
has no name. -/
theorem handshake_cut (hs : s.connection.incoming = some u) (hclear : s.Clear)
    (hkey : s.settings.validate = .ok key) (hlines : Accepting hello ask response verdict)
    (hk : k < (Bytes.ofString hello ++ (Bytes.ofString ask ++ Bytes.ofString response)).length)
    (hu : u.Delivers
      ((Bytes.ofString hello ++ (Bytes.ofString ask ++ Bytes.ofString response)).take k)) :
    let cut := underWay (Bytes.ofString hello) (Bytes.ofString ask) (Bytes.ofString response) k
    ∃ t, EStateM.run handshake s = .error (cutShort cut.1 cut.2) t ∧ t.id = s.id ∧
      (s.state ≠ .stopped → t.state ≠ .stopped) := by
  obtain ⟨version, hversion⟩ := hlines.greeting
  obtain ⟨token, htoken⟩ := hlines.challenge
  obtain ⟨hhello, hask, hresponse⟩ := hlines.controls
  have hstart : s.Onward s _ none :=
    ⟨rfl, rfl, rfl, fun h => h, hclear, u, hs, hu.content, hu.failure⟩
  rw [List.length_append, List.length_append] at hk
  rw [underWay]
  -- The lines in front of the cut are heard as in a handshake that goes on.
  by_cases hfirst : k < (Bytes.ofString hello).length
  · rw [if_pos hfirst]
    rw [List.take_append_of_le_length (Nat.le_of_lt hfirst)] at hstart
    obtain ⟨hnot, hshort⟩ := hhello.take hfirst
    obtain ⟨v, hcut⟩ := hstart.cut hnot hshort .readingGreeting
    rw [handshake_eq, bind_error hcut]
    exact ⟨_, rfl, rfl, fun h => h⟩
  rw [if_neg hfirst]
  rw [List.take_append, List.take_of_length_le (Nat.le_of_not_lt hfirst)] at hstart
  obtain ⟨t, hrun, h₁⟩ := hstart.greeted hhello hversion
  rw [hrun]
  by_cases hsecond : k < (Bytes.ofString hello).length + (Bytes.ofString ask).length
  · rw [if_pos hsecond]
    rw [List.take_append_of_le_length (by omega)] at h₁
    obtain ⟨hnot, hshort⟩ := hask.take (k := k - (Bytes.ofString hello).length) (by omega)
    obtain ⟨v, hcut⟩ := h₁.cut hnot hshort .readingChallenge
    rw [answerChallenge, bind_error hcut]
    exact ⟨_, rfl, h₁.id, h₁.running⟩
  rw [if_neg hsecond]
  rw [List.take_append, List.take_of_length_le (by omega), Nat.sub_sub] at h₁
  obtain ⟨t₂, hrun₂, h₂⟩ := h₁.challenged hkey hask htoken
  obtain ⟨hnot, hshort⟩ := hresponse.take
    (k := k - ((Bytes.ofString hello).length + (Bytes.ofString ask).length)) (by omega)
  obtain ⟨v, hcut⟩ := h₂.cut hnot hshort .readingResponse
  rw [hrun₂, hearVerdict, bind_error hcut]
  exact ⟨_, rfl, h₂.id, h₂.running⟩

/-- Nothing has come of a line exactly where one line ends and the next begins. -/
theorem underWay_eq_nil_iff (hlines : Accepting hello ask response verdict)
    (hk : k < (Bytes.ofString hello ++ (Bytes.ofString ask ++ Bytes.ofString response)).length) :
    (underWay (Bytes.ofString hello) (Bytes.ofString ask) (Bytes.ofString response) k).2 = [] ↔
      k = 0 ∨ k = (Bytes.ofString hello).length ∨
        k = (Bytes.ofString hello).length + (Bytes.ofString ask).length := by
  obtain ⟨hhello, hask, -⟩ := hlines.controls
  have hfirst := hhello.length_pos
  have hsecond := hask.length_pos
  rw [List.length_append, List.length_append] at hk
  rw [← List.length_eq_zero_iff, underWay]
  by_cases h₁ : k < (Bytes.ofString hello).length
  · rw [if_pos h₁, List.length_take]
    omega
  · rw [if_neg h₁]
    by_cases h₂ : k < (Bytes.ofString hello).length + (Bytes.ofString ask).length
    · rw [if_pos h₂, List.length_take]
      omega
    · rw [if_neg h₂, List.length_take]
      omega

/-! ## Whole sessions -/

theorem excuses_of_authenticate (hs : s.connection.incoming = some u)
    (hstate : s.state = .awaitingGreeting) (he : (s.perform .authenticate).1 = .error e) :
    Excuses u.content u.failure e := by
  have hauthenticate : Ensures s authenticate (fun _ _ => True)
      fun e _ => Excuses u.content u.failure e := by
    rw [Ensures, run_authenticate hstate]
    exact ensures_guarded_failure (ensures_handshake_excuses hs)
  have hcall : Ensures s (Call.step .authenticate) (fun _ _ => True)
      fun e _ => Excuses u.content u.failure e :=
    hauthenticate.andThen fun _ _ _ => ensures_pure trivial
  exact hcall.of_error (run_of_outcome_error he)

theorem perform_authenticate_error (hstate : s.state = .awaitingGreeting)
    (hr : EStateM.run handshake s = .error e t) (he : e.IsExternal) (ht : t.state ≠ .stopped) :
    s.perform .authenticate = (.error e, t.fail) := by
  have herror : EStateM.run authenticate s = .error e t.fail := by
    rw [run_authenticate hstate, run_guarded_error hr he ht]
  rw [perform, outcome, Call.step, bind_error herror]

/-- Whatever a gateway sends, a session says that a control line is too long only if one goes on
without an end, or the stream ends inside one.  And a handshake that the gateway breaks off, after
however many bytes, is a closed connection to the session exactly if it ends between two lines;
inside a line it is a line too long, or no text.  The session has failed then, without a name. -/
theorem broken_off_iff (h : settings.validate = .ok key) (incoming : Source)
    (writes : List (Option IoFault)) (closing : Option IoFault) :
    ∃ s, connect settings (.ok (.opened incoming writes closing)) = .ok s ∧
      (∀ n phase, (s.perform .authenticate).1 = .error (.protocol (.longLine n phase)) →
        n = lineLimit ∧ Unended incoming.content incoming.failure) ∧
      ∀ hello ask response verdict k, Accepting hello ask response verdict →
        (∀ write ∈ writes, write = none) →
        let greeting := Bytes.ofString hello
        let challenge := Bytes.ofString ask
        let stream := greeting ++ (challenge ++ Bytes.ofString response)
        k < stream.length → incoming.Delivers (stream.take k) →
        let cut := underWay greeting challenge (Bytes.ofString response) k
        (s.perform .authenticate).1 = .error (cutShort cut.1 cut.2) ∧
        ((s.perform .authenticate).1 = .error (.transport cut.1 .unexpectedEnd) ↔
          k = 0 ∨ k = greeting.length ∨ k = greeting.length + challenge.length) ∧
        (s.perform .authenticate).2.state = .failed ∧ (s.perform .authenticate).2.id = none := by
  refine ⟨_, connect_of_validate h _, fun n phase he => ?_, ?_⟩
  · exact excuses_of_authenticate rfl rfl he n phase rfl
  intro hello ask response verdict k hlines hwrites greeting challenge stream hk hu cut
  -- Of the session only what the handshake reads of it is kept.
  generalize hs : ({ ofConnection settings (.opened incoming writes closing) with
    state := .awaitingGreeting } : Session) = s
  obtain ⟨hincoming, hclear, hkey, hnone, hopen⟩ : s.connection.incoming = some incoming ∧
      s.Clear ∧ s.settings.validate = .ok key ∧ s.id = none ∧ s.state = .awaitingGreeting := by
    subst hs
    exact ⟨rfl, ⟨rfl, hwrites⟩, h, rfl, rfl⟩
  obtain ⟨t, hrun, hid, hstate⟩ := handshake_cut hincoming hclear hkey hlines hk hu
  have hrunning : t.state ≠ .stopped := hstate (by rw [hopen]; nofun)
  have hperform := perform_authenticate_error hopen hrun (external_cutShort _ _) hrunning
  rw [hperform]
  refine ⟨rfl, ?_, rfl, hid.trans hnone⟩
  rw [Except.error.injEq, cutShort_eq_iff]
  exact underWay_eq_nil_iff hlines hk

/-- The gateway closes after five bytes of its challenge, which come in two pieces. -/
theorem broken_off_iff_challenge :
    let settings := Settings.ofKey "db-0123456789abcdefghijklmnopqrs" "XNAS.ITCH"
    let incoming : Source := [.data (Bytes.ofString "lsg_version=0.4.2\ncr"), .interrupted,
      .data (Bytes.ofString "am=")]
    ∃ s, connect settings (.ok (.opened incoming [none] none)) = .ok s ∧
      (s.perform .authenticate).1 = .error (.protocol (.longLine 24576 .readingChallenge)) ∧
      Unended incoming.content incoming.failure ∧
      (s.perform .authenticate).2.state = .failed ∧ (s.perform .authenticate).2.id = none := by
  intro settings incoming
  have hvalid : settings.validate.isOk = true := by decide +kernel
  obtain ⟨key, hkey⟩ := exists_of_isOk hvalid
  have hwrites : ∀ write ∈ [(none : Option IoFault)], write = none := by simp
  obtain ⟨s, hopen, hlong, hcut⟩ := broken_off_iff hkey incoming [none] none
  obtain ⟨herror, -, hstate, hid⟩ := hcut "lsg_version=0.4.2\n" "cram=abc123\n"
    "success=1|session_id=7\n" ⟨true, some "7", none⟩ 23 accepting_plain hwrites
    (by decide +kernel) ⟨by decide +kernel, rfl⟩
  have hfailure : (s.perform .authenticate).1 =
      .error (.protocol (.longLine 24576 .readingChallenge)) := by
    rw [herror]
    exact congrArg Except.error (by decide +kernel)
  exact ⟨s, hopen, hfailure, (hlong _ _ hfailure).2, hstate, hid⟩

/-- The gateway closes after seven bytes of its greeting, and is said to have sent a line of more
than 24576 bytes. -/
theorem cut_greeting_called_long :
    let settings := Settings.ofKey "db-0123456789abcdefghijklmnopqrs" "XNAS.ITCH"
    let incoming := Source.ofBytes (Bytes.ofString "lsg_ver")
    Accepting "lsg_version=0.4.2\n" "cram=abc123\n" "success=1|session_id=7\n"
        ⟨true, some "7", none⟩ ∧
      incoming.Delivers ((Bytes.ofString "lsg_version=0.4.2\n").take 7) ∧
      ∃ s, connect settings (.ok (.opened incoming [] none)) = .ok s ∧
        (s.perform .authenticate).1 = .error (.protocol (.longLine 24576 .readingGreeting)) ∧
        (s.perform .authenticate).1 ≠ .error (.transport .readingGreeting .unexpectedEnd) := by
  intro settings incoming
  have hvalid : settings.validate.isOk = true := by decide +kernel
  obtain ⟨key, hkey⟩ := exists_of_isOk hvalid
  refine ⟨accepting_plain, ⟨by decide +kernel, rfl⟩, _, connect_of_validate hkey _, ?_⟩
  let s : Session := { ofConnection settings (.opened incoming [] none) with
    state := .awaitingGreeting }
  have hstart : s.Onward s (Bytes.ofString "lsg_ver") none :=
    ⟨rfl, rfl, rfl, fun h => h, ⟨rfl, by simp [s, ofConnection, Connection.opened]⟩, incoming,
      rfl, by decide +kernel, rfl⟩
  obtain ⟨v, hread⟩ := hstart.cut (by decide +kernel) (by decide +kernel) .readingGreeting
  have hsaid : cutShort .readingGreeting (Bytes.ofString "lsg_ver") =
      .protocol (.longLine 24576 .readingGreeting) := by decide +kernel
  have hrun : EStateM.run handshake s =
      .error (.protocol (.longLine 24576 .readingGreeting)) (s.hearing v) := by
    rw [handshake_eq, bind_error hread, hsaid]
  have hperform := perform_authenticate_error (s := s) rfl hrun nofun nofun
  rw [hperform]
  exact ⟨rfl, nofun⟩

end Session
end Live
end TickStream
