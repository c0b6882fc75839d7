import Mathlib.Data.List.TakeWhile
import TickStream.Live.Session
import TickStream.Proofs.External
import TickStream.Proofs.Scan.Lines
/-
Control lines of a session, in both directions.  Main statements: a line is read off what the
gateway sends with its newline and nothing behind it; a line is written as a whole or not at all;
and nothing else of the session changes.
-/
namespace TickStream

open Step

/-- A line that was read ends at the first byte that ends lines, or has none of these and is as
long as may be or all that there is. -/
theorem Source.lineOf_eq_ok {stop : UInt8} {limit : Nat} {bs line : Bytes}
    {fault? : Option IoFault} (h : lineOf stop limit bs fault? = .ok line) :
    (∃ front, line = front ++ [stop] ∧ stop ∉ front ∧ line.length ≤ limit) ∨
      (stop ∉ line ∧ (line.length = limit ∨ (line = bs ∧ fault? = none))) := by
  simp only [lineOf] at h
  generalize hfront : bs.takeWhile (· != stop) = front at h
  have hpre : front <+: bs := hfront ▸ List.takeWhile_prefix _
  have hnot : stop ∉ front := by
    intro hmem
    rw [← hfront] at hmem
    simpa using List.mem_takeWhile_imp hmem
  by_cases hlong : limit ≤ front.length
  · rw [if_pos hlong] at h
    injection h with h
    obtain ⟨tail, rfl⟩ := hpre
    rw [List.take_append_of_le_length hlong] at h
    rw [← h, List.length_take, Nat.min_eq_left hlong]
    exact .inr ⟨fun hmem => hnot (List.mem_of_mem_take hmem), .inl rfl⟩
  rw [if_neg hlong] at h
  by_cases hfound : front.length < bs.length
  · rw [if_pos hfound] at h
    injection h with h
    refine .inl ⟨front, h.symm, hnot, ?_⟩
    rw [← h, List.length_append, List.length_singleton]
    omega
  · rw [if_neg hfound] at h
    have hall : front = bs := hpre.eq_of_length_le (Nat.le_of_not_lt hfound)
    cases fault? with
    | some fault => cases h
    | none =>
      injection h with h
      rw [← h, ← hall]
      exact .inr ⟨hnot, .inr ⟨rfl, rfl⟩⟩

/-- A line that was read with the byte that ends it was within the limit. -/
theorem Source.front_of_lineOf {stop : UInt8} {limit : Nat} {bs line : Bytes}
    {fault? : Option IoFault} (h : lineOf stop limit bs fault? = .ok line)
    (hlast : line.getLast? = some stop) :
    ∃ front, line = front ++ [stop] ∧ stop ∉ front ∧ line.length ≤ limit := by
  obtain hended | ⟨hnot, -⟩ := lineOf_eq_ok h
  · exact hended
  · exact absurd (List.mem_of_getLast? hlast) hnot

namespace Live

/-- The line ends at its only newline, and may be read as a whole. -/
structure IsControl (line : String) : Prop where
  whole : ∃ front, Bytes.ofString line = front ++ [Session.newline] ∧ Session.newline ∉ front
  short : (Bytes.ofString line).length ≤ Session.lineLimit

namespace Session

variable {s t : Session} {u : Source} {phase : Phase} {line : String}

/-- The session with another rest of what the gateway sends. -/
def hearing (s : Session) (u : Source) : Session :=
  { s with connection := { s.connection with incoming := some u } }

/-- The session with another outlook on its writes. -/
def facing (s : Session) (writes : List (Option IoFault)) : Session :=
  { s with connection := { s.connection with writes := writes } }

/-- The session with one more message written. -/
def saying (s : Session) (writes : List (Option IoFault)) (line : String) : Session :=
  { s with connection := { s.connection with
    writes := writes, sent := s.connection.sent ++ [Bytes.ofString line] } }

/-! ## Reading -/

theorem run_readLine (hs : s.connection.incoming = some u) (phase : Phase) :
    EStateM.run (readLine phase) s = match u.readUntil newline lineLimit with
      | (.error fault, v) => .error (.transport phase fault) (s.hearing v)
      | (.ok bs, v) => EStateM.run (ofExcept (controlLine phase bs)) (s.hearing v) := by
  rw [readLine, bind_ok (run_get s), hs]
  simp only
  rcases u.readUntil newline lineLimit with ⟨result, v⟩
  cases result <;> rfl

theorem controlLine_eq_ok {bs : Bytes} (h : controlLine phase bs = .ok line) :
    bs = Bytes.ofString line ∧ bs.getLast? = some newline := by
  rw [controlLine] at h
  split at h
  · cases h
  · split at h
    · cases h
    · rename_i text htext
      split at h
      · rename_i hlast
        injection h with h
        exact ⟨h ▸ Bytes.toString?_eq_some_iff.1 htext, hlast⟩
      · cases h

theorem external_controlLine (phase : Phase) (bs : Bytes) :
    ExternalIn (controlLine phase bs) := by
  rw [controlLine]
  refine (errsAs_error fun h => by cases h).ite ?_
  split
  · exact errsAs_error fun h => by cases h
  · exact (errsAs_ok _).ite (errsAs_error fun h => by cases h)

/-- A line that is read stands at the front of what the gateway sends. -/
theorem ensures_readLine (hs : s.connection.incoming = some u) (phase : Phase) :
    Ensures s (readLine phase)
      (fun line t => ∃ v, t = s.hearing v ∧ IsControl line ∧
        u.content = Bytes.ofString line ++ v.content ∧ v.failure = u.failure)
      fun e t => e.IsExternal ∧ ∃ v, t = s.hearing v := by
  rw [Ensures, run_readLine hs]
  rcases hread : u.readUntil newline lineLimit with ⟨result, v⟩
  cases result with
  | error fault => exact .error ⟨(fun h => by cases h), v, rfl⟩
  | ok bs =>
    refine ensures_ofExcept (fun line hline => ?_) fun e he => ?_
    · obtain ⟨rfl, hlast⟩ := controlLine_eq_ok hline
      have hfst := Source.readUntil_fst newline lineLimit u
      rw [hread] at hfst
      obtain ⟨front, hfront, hnot, hshort⟩ := Source.front_of_lineOf hfst.symm hlast
      obtain ⟨hcontent, hfailure⟩ := Source.content_readUntil hread
      exact ⟨v, rfl, ⟨⟨front, hfront, hnot⟩, hshort⟩, hcontent, hfailure.symm⟩
    · exact ⟨external_controlLine phase bs he, v, rfl⟩

/-- A line at the front of what the gateway sends is read, and the rest is left. -/
theorem readLine_of_line {rest : Bytes} (hs : s.connection.incoming = some u)
    (hu : u.content = Bytes.ofString line ++ rest) (hline : IsControl line) (phase : Phase) :
    ∃ v, EStateM.run (readLine phase) s = .ok line (s.hearing v) ∧ v.content = rest ∧
      v.failure = u.failure := by
  obtain ⟨front, hfront, hnot⟩ := hline.whole
  have hshort : front.length < lineLimit := by
    have := hline.short
    rw [hfront, List.length_append, List.length_singleton] at this
    omega
  rw [hfront, List.append_assoc] at hu
  obtain ⟨v, hread, hcontent, hfailure⟩ := Source.readUntil_of_line hu hnot hshort
  have hbytes : controlLine phase (front ++ [newline]) = .ok line := by
    have hempty : ¬ (front ++ [newline]).isEmpty = true := by simp
    rw [controlLine, if_neg hempty, ← hfront, Bytes.toString?_ofString, hfront]
    simp only [List.getLast?_concat, if_pos]
  refine ⟨v, ?_, hcontent, hfailure⟩
  rw [run_readLine hs, hread]
  exact run_ofExcept_ok hbytes _

/-! ## Writing -/

/-- A line is written behind those before it, or not at all. -/
theorem ensures_sendLine (s : Session) (phase : Phase) (line : String) :
    Ensures s (sendLine phase line) (fun _ t => ∃ writes, t = s.saying writes line)
      fun e t => e.IsExternal ∧ ∃ writes, t = s.facing writes := by
  refine ensures_get_bind ?_
  rw [Connection.send]
  by_cases hclosed : s.connection.closed = true
  · rw [if_pos hclosed]
    exact .error ⟨nofun, s.connection.writes, rfl⟩
  rw [if_neg hclosed]
  rcases hwrites : s.connection.writes with _ | ⟨write, rest⟩
  · exact .ok ⟨[], rfl⟩
  · cases write with
    | none => exact .ok ⟨rest, rfl⟩
    | some fault => exact .error ⟨nofun, rest, rfl⟩

/-- The connection is open and none of its writes will fail. -/
structure Clear (s : Session) : Prop where
  opened : s.connection.closed = false
  writes : ∀ write ∈ s.connection.writes, write = none

theorem sendLine_of_clear (hs : s.Clear) (phase : Phase) (line : String) :
    ∃ writes, EStateM.run (sendLine phase line) s = .ok () (s.saying writes line) ∧
      (s.saying writes line).Clear := by
  have hclosed : ¬ s.connection.closed = true := by
    rw [hs.opened]
    decide
  rw [sendLine, bind_ok (run_get s), Connection.send, if_neg hclosed]
  have hall := hs.writes
  rcases hwrites : s.connection.writes with _ | ⟨write, rest⟩
  · exact ⟨[], rfl, hs.opened, fun write hw => absurd hw List.not_mem_nil⟩
  · rw [hwrites] at hall
    have hfirst := hall write List.mem_cons_self
    subst hfirst
    exact ⟨rest, rfl, hs.opened, fun write hw => hall write (List.mem_cons_of_mem _ hw)⟩

end Session
end Live
end TickStream
