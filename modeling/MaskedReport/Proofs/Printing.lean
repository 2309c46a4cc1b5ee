import MaskedReport.Command
import MaskedReport.Proofs.Causes
import MaskedReport.Proofs.Rendering

/-!
# Values printed

Printing a value succeeds if it can be written and encoded. It has then printed the text that is
written, and where it fails some part of a text is left: `Command.Ending.printed_of_ok` and
`Command.Ending.exists_printed_of_error` say so for the command. Printing may fail for another
reason than writing, which fails for a key before any text is encoded.
-/

set_option autoImplicit false

namespace MaskedReport

namespace Json

/-- Printing that ends well if a text is given and can be encoded, with the text printed, and
otherwise fails for an output, perhaps with a part of a text printed. -/
def Prints (x : Printing Unit) (r : Except Failure Text) : Prop :=
  ∀ before : String, match (r >>= encoded).toOption with
    | some t => x.run.run before = (.ok (), before ++ t)
    | none => ∃ why part, why.cause ∈ [Cause.output, .numeral] ∧
        x.run.run before = (.error why, before ++ part)

/-- The texts of items, the first after the text before it. -/
def joined (before separator : Text) : List Text → Text
  | [] => ""
  | t :: rest => before ++ separator.intercalate (t :: rest)

/-- The first of several texts comes after what stands before, the others after separators. -/
theorem joined_cons (before separator t : Text) (texts : List Text) :
    joined before separator (t :: texts) = before ++ t ++ joined separator separator texts := by
  cases texts with
  | nil => rw [joined, joined, Text.intercalate_singleton, Text.append_empty]
  | cons u rest =>
    rw [joined, joined, Text.intercalate_cons_cons]
    simp only [Text.append_assoc]

/-- Printing a text prints that text. -/
theorem prints_put (t : Text) : Prints (put t) (.ok t) := by
  intro before
  have hgiven : ((.ok t : Except Failure Text) >>= encoded) = encoded t := rfl
  rw [hgiven]
  unfold put
  cases hencoded : encoded t with
  | ok u => rfl
  | error why =>
    refine ⟨why, "", failsBy_encoded t why hencoded, ?_⟩
    rw [String.append_empty]
    rfl

/-- A string is printed as it is. -/
theorem run_put_ofString (s before : String) :
    (put (Text.ofString s)).run.run before = (.ok (), before ++ s) := by
  unfold put
  rw [encoded_ofString]
  rfl

/-- Printing only adds to what has been printed. -/
theorem Prints.exists_part {x : Printing Unit} {r : Except Failure Text} (h : Prints x r)
    (before : String) : ∃ part, (x.run.run before).2 = before ++ part := by
  have hx := h before
  split at hx
  · exact ⟨_, by rw [hx]⟩
  · obtain ⟨why, part, -, hpart⟩ := hx
    exact ⟨part, by rw [hpart]⟩

/-- What fails at once fails with nothing printed. -/
theorem prints_error {α : Type} {why : Failure} (hwhy : why.cause ∈ [Cause.output, .numeral])
    (f : α → Printing Unit) : Prints (liftExcept (.error why) >>= f) (.error why) := by
  intro before
  refine ⟨why, "", hwhy, ?_⟩
  rw [String.append_empty]
  rfl

/-- Where a step succeeds, what follows it starts from what has been printed. -/
theorem run_bind_of_ok {x y : Printing Unit} {before printed : String}
    (h : x.run.run before = (.ok (), printed)) :
    (x >>= fun _ => y).run.run before = y.run.run printed := by
  rw [ExceptT.run_bind, StateT.run_bind, h]
  rfl

/-- Steps in a row that fail in the first stop with what it has printed. -/
theorem run_bind_of_error {x y : Printing Unit} {before printed : String} {why : Failure}
    (h : x.run.run before = (.error why, printed)) :
    (x >>= fun _ => y).run.run before = (.error why, printed) := by
  rw [ExceptT.run_bind, StateT.run_bind, h]
  rfl

/-- The text that two results give is encoded part by part. -/
theorem toOption_append_encoded (s t : Text) :
    (encoded (s ++ t)).toOption =
      (encoded s).toOption.bind fun a => (encoded t).toOption.map fun b => a ++ b := by
  have hone : ∀ u : Text, (encoded u).toOption = if u.isPlain then some u.string else none := by
    intro u
    have hok := isOk_encoded u
    cases hencoded : encoded u with
    | ok v =>
      rw [hencoded] at hok
      rw [← show true = u.isPlain from hok, string_of_encoded hencoded]
      rfl
    | error why =>
      rw [hencoded] at hok
      rw [← show false = u.isPlain from hok]
      rfl
  rw [hone, hone, hone, Text.isPlain_append, Text.string_append]
  cases s.isPlain with
  | false => rfl
  | true =>
    cases t.isPlain with
    | false => rfl
    | true => rfl

/-- Steps in a row print what the first prints and then what the second does. -/
theorem Prints.append {x y : Printing Unit} {r q : Except Failure Text} (hx : Prints x r)
    (hy : Prints y q) : Prints (x >>= fun _ => y) (r >>= fun t => q.map fun u => t ++ u) := by
  have hboth : ((r >>= fun t => q.map fun u => t ++ u) >>= encoded).toOption =
      (r >>= encoded).toOption.bind fun a => (q >>= encoded).toOption.map fun b => a ++ b := by
    cases r with
    | error why => rfl
    | ok t =>
      cases q with
      | error why => exact (Option.bind_fun_none _).symm
      | ok u => exact toOption_append_encoded t u
  intro before
  have hfirst := hx before
  rw [hboth]
  cases hr : (r >>= encoded).toOption with
  | none =>
    rw [hr] at hfirst
    obtain ⟨why, part, hwhy, hpart⟩ := hfirst
    exact ⟨why, part, hwhy, run_bind_of_error hpart⟩
  | some t =>
    rw [hr] at hfirst
    have hsecond := hy (before ++ t)
    cases hq : (q >>= encoded).toOption with
    | none =>
      rw [hq] at hsecond
      obtain ⟨why, part, hwhy, hpart⟩ := hsecond
      refine ⟨why, t ++ part, hwhy, ?_⟩
      rw [run_bind_of_ok hfirst, hpart, String.append_assoc]
    | some u =>
      rw [hq] at hsecond
      show (x >>= fun _ => y).run.run before = (.ok (), before ++ (t ++ u))
      rw [run_bind_of_ok hfirst, ← String.append_assoc]
      exact hsecond

/-- A text may be printed first. -/
theorem Prints.after {x : Printing Unit} {r : Except Failure Text} (h : Prints x r) (t : Text) :
    Prints (do put t; x) (r.map fun u => t ++ u) :=
  (prints_put t).append h

/-- What is printed between brackets is what is enclosed in them. -/
theorem prints_printEnclosed {layout : Layout} {depth : Nat} {opening closing : String}
    {inside : String → Printing Unit} {texts : Except Failure (List Text)} (hsome : texts ≠ .ok [])
    (h : ∀ before : String, Prints (inside before)
      (texts.map (joined before (separator layout (depth + 1))))) :
    Prints (printEnclosed layout depth opening closing false inside)
      (texts.map (enclose layout depth opening closing)) := by
  have hbody := (h (opening ++ lineEnd layout (depth + 1))).append
    (prints_put (lineEnd layout depth ++ closing))
  cases texts with
  | error why => exact hbody
  | ok ts =>
    cases ts with
    | nil => exact absurd rfl hsome
    | cons t rest =>
      have henclosed : enclose layout depth opening closing (t :: rest) =
          joined (Text.ofString (opening ++ lineEnd layout (depth + 1)))
            (separator layout (depth + 1)) (t :: rest) ++ (lineEnd layout depth ++ closing) := by
        rw [joined, ← Text.append_assoc, Text.ofString_append]
        rfl
      show Prints _ (.ok (enclose layout depth opening closing (t :: rest)))
      rw [henclosed]
      exact hbody

/-- Two results in a row, joined: the second is what comes after a separator. -/
theorem map_joined_cons {before separator : Text} (x : Except Failure Text)
    (rest : Except Failure (List Text)) :
    ((x.map fun t => before ++ t) >>= fun t =>
        (rest.map (joined separator separator)).map fun u => t ++ u) =
      (do return (← x) :: (← rest)).map (joined before separator) := by
  cases x with
  | error why => rfl
  | ok t =>
    cases rest with
    | error why => rfl
    | ok texts => exact congrArg Except.ok (joined_cons before separator t texts).symm

/-- The same where the first is an entry of a key, whose value comes after no text. -/
theorem map_joined_entry {before separator key : Text} (x : Except Failure Text)
    (rest : Except Failure (List Text)) :
    ((((x.map fun t => Text.ofString "" ++ t) >>= fun t =>
        (rest.map (joined separator separator)).map fun u => t ++ u).map
          fun t => quoted key ++ ": " ++ t).map fun t => before ++ t) =
      (do return (quoted key ++ ": " ++ (← x)) :: (← rest)).map (joined before separator) := by
  cases x with
  | error why => rfl
  | ok t =>
    cases rest with
    | error why => rfl
    | ok texts =>
      have hentry : before ++ (quoted key ++ Text.ofString ": " ++
            (Text.ofString "" ++ t ++ joined separator separator texts)) =
          joined before separator ((quoted key ++ ": " ++ t) :: texts) := by
        rw [joined_cons, Text.empty_append]
        simp only [Text.append_assoc]
      exact congrArg Except.ok hentry

/-- An item is not written as no text. -/
theorem writeItems_cons_ne_nil {layout : Layout} {depth : Nat} (v : Value) (rest : List Value) :
    writeItems layout depth (v :: rest) ≠ .ok [] := by
  intro h
  obtain ⟨t, -, h⟩ := bind_eq_ok h
  obtain ⟨ts, -, h⟩ := bind_eq_ok h
  cases h

/-- An entry is not written as no text. -/
theorem writeEntries_cons_ne_nil {layout : Layout} {depth : Nat} (e : Value × Value)
    (rest : List (Value × Value)) : writeEntries layout depth (e :: rest) ≠ .ok [] := by
  intro h
  obtain ⟨key, -, h⟩ := bind_eq_ok h
  obtain ⟨t, -, h⟩ := bind_eq_ok h
  obtain ⟨ts, -, h⟩ := bind_eq_ok h
  cases h

/-- A text that may be lacking, after one that is not. -/
theorem prints_text (before : String) {x : Except Failure Text}
    (h : FailsBy [.output, .numeral] x) :
    Prints (do put before; put (← liftExcept x)) (x.map fun t => before ++ t) := by
  cases x with
  | error why => exact (prints_error (h why rfl) put).after before
  | ok t => exact (prints_put t).after before

/-- Doing nothing prints nothing. -/
theorem prints_nothing : Prints (pure ()) (.ok "") := by
  intro before
  show (Except.ok (), before) = (Except.ok (), before ++ "")
  rw [String.append_empty]

/-- Entries come after the text before them as they come after no text. -/
theorem map_joined_empty {before separator : Text} {texts : Except Failure (List Text)}
    (hsome : texts ≠ .ok []) :
    (texts.map (joined "" separator)).map (fun t => before ++ t) =
      texts.map (joined before separator) := by
  rcases texts with why | _ | ⟨t, rest⟩
  · rfl
  · exact absurd rfl hsome
  · show Except.ok (before ++ (Text.ofString "" ++ _)) = Except.ok (before ++ _)
    rw [Text.empty_append]

mutual

/-- A value is printed as it is written, after the text before it. -/
theorem prints_print (layout : Layout) :
    (depth : Nat) → (before : String) → (v : Value) →
      Prints (print layout depth before v) ((write layout depth v).map fun t => before ++ t)
  | _, before, .int i => by
    rw [print, write]
    cases hwhole : wholeText i with
    | error why => exact prints_error ((failsBy_wholeText i).mono (by simp) why hwhole) _
    | ok t => exact prints_put _
  | _, before, .text s => prints_put _
  | _, before, .list [] => (prints_put _).after before
  | depth, before, .list (v :: rest) => by
    rw [print, write]
    exact (prints_printEnclosed (writeItems_cons_ne_nil v rest) fun opening =>
      prints_printItems layout (depth + 1) opening (v :: rest)).after before
  | _, before, .tuple [] => (prints_put _).after before
  | depth, before, .tuple (v :: rest) => by
    rw [print, write]
    exact (prints_printEnclosed (writeItems_cons_ne_nil v rest) fun opening =>
      prints_printItems layout (depth + 1) opening (v :: rest)).after before
  | _, before, .map [] => (prints_put _).after before
  | depth, before, .map (e :: rest) => by
    rw [print, write]
    have hsome : writeEntries layout (depth + 1) (e :: rest) ≠ .ok [] :=
      writeEntries_cons_ne_nil e rest
    refine (prints_printEnclosed hsome fun opening => ?_).after before
    rw [← map_joined_empty hsome]
    exact (prints_printEntries layout (depth + 1) "" (e :: rest)).after opening
  | depth, before, .null => prints_text before (failsBy_write layout depth (.null))
  | depth, before, .bool b => prints_text before (failsBy_write layout depth (.bool b))
  | depth, before, .real x => prints_text before (failsBy_write layout depth (.real x))
  | depth, before, .bytes bs => prints_text before (failsBy_write layout depth (.bytes bs))
  | depth, before, .date d => prints_text before (failsBy_write layout depth (.date d))
  | depth, before, .instant t => prints_text before (failsBy_write layout depth (.instant t))
  | depth, before, .set items => prints_text before (failsBy_write layout depth (.set items))
  | depth, before, .pattern p => prints_text before (failsBy_write layout depth (.pattern p))
  | depth, before, .bytePattern source =>
    prints_text before (failsBy_write layout depth (.bytePattern source))
  | depth, before, .loop ofMap => prints_text before (failsBy_write layout depth (.loop ofMap))

/-- Printing items prints their texts with separators between them. -/
theorem prints_printItems (layout : Layout) :
    (depth : Nat) → (before : String) → (items : List Value) →
      Prints (printItems layout depth before items)
        ((writeItems layout depth items).map (joined before (separator layout depth)))
  | _, _, [] => prints_nothing
  | depth, before, v :: rest => by
    rw [printItems, writeItems, ← map_joined_cons]
    exact (prints_print layout depth before v).append
      (prints_printItems layout depth (separator layout depth) rest)

/-- Printing entries prints their texts with separators between them. -/
theorem prints_printEntries (layout : Layout) :
    (depth : Nat) → (before : String) → (entries : List (Value × Value)) →
      Prints (printEntries layout depth before entries)
        ((writeEntries layout depth entries).map (joined before (separator layout depth)))
  | _, _, [] => prints_nothing
  | depth, before, (k, v) :: rest => by
    have hvalue := prints_print layout depth "" v
    have hrest := prints_printEntries layout depth (separator layout depth) rest
    rw [printEntries, writeEntries]
    cases hkey : keyText layout k with
    | error why => exact prints_error (failsBy_keyText layout k why hkey) _
    | ok key =>
      have hentry := ((hvalue.append hrest).after (quoted key ++ ": ")).after before
      rw [map_joined_entry] at hentry
      exact hentry

end

/-- What a mapping prints starts with its bracket, also where a key or a value fails. -/
theorem exists_part_print_map (layout : Layout) (depth : Nat) (e : Value × Value)
    (rest : List (Value × Value)) :
    ∃ part, ((print layout depth "" (.map (e :: rest))).run.run "").2 = "\x7b" ++ part := by
  have hinside := (prints_printEntries layout (depth + 1) "" (e :: rest)).append
    (prints_put (lineEnd layout depth ++ "\x7d"))
  let opening := "\x7b" ++ lineEnd layout (depth + 1)
  obtain ⟨part, hpart⟩ := hinside.exists_part ("" ++ "" ++ opening)
  have hentries : print layout depth "" (.map (e :: rest)) =
      (put (Text.ofString "") >>= fun _ => put (Text.ofString opening) >>= fun _ =>
        printEntries layout (depth + 1) "" (e :: rest) >>= fun _ =>
          put (lineEnd layout depth ++ "\x7d")) := by
    rw [print, ← bind_assoc (put (Text.ofString opening))]
    rfl
  refine ⟨lineEnd layout (depth + 1) ++ part, ?_⟩
  rw [hentries, run_bind_of_ok (run_put_ofString "" ""),
    run_bind_of_ok (run_put_ofString opening _), hpart, String.empty_append, String.empty_append,
    String.append_assoc]

end Json

namespace Command.Ending

/-- What is written after no text is encoded as the text of the value. -/
theorem toOption_written (v : Value) :
    (((Json.write Json.indented 0 v).map fun t => Text.ofString "" ++ t) >>=
      Json.encoded).toOption = (Json.text Json.indented v).toOption := by
  rw [Json.text]
  cases Json.write Json.indented 0 v with
  | error why => rfl
  | ok t => rfl

/-- A value that can be written is printed with a line end after it. -/
theorem printed_of_ok {v : Value} {t : String} (h : Json.text Json.indented v = .ok t) :
    printed v = .done (t ++ "\n") := by
  have hprints := Json.prints_print Json.indented 0 "" v ""
  rw [toOption_written, h] at hprints
  have hrun : (Json.print Json.indented 0 "" v).run.run "" = (.ok (), "" ++ t) := hprints
  rw [printed, hrun, String.empty_append]

/-- Printing a value that cannot be written fails for an output after a part. -/
theorem exists_printed_of_error {v : Value} {why : Failure}
    (h : Json.text Json.indented v = .error why) :
    ∃ part reason, reason.cause ∈ [Cause.output, .numeral] ∧ printed v = .failed part reason := by
  have hprints := Json.prints_print Json.indented 0 "" v ""
  rw [toOption_written, h] at hprints
  obtain ⟨reason, part, hreason, hrun⟩ := hprints
  refine ⟨"" ++ part, reason, hreason, ?_⟩
  rw [printed, hrun]

/-- Something is printed of every mapping that is not empty. -/
theorem output_printed_ne_empty (e : Value × Value) (rest : List (Value × Value)) :
    (printed (.map (e :: rest))).output ≠ "" := by
  obtain ⟨part, hpart⟩ := Json.exists_part_print_map Json.indented 0 e rest
  unfold printed
  rcases hrun : (Json.print Json.indented 0 "" (.map (e :: rest))).run.run "" with ⟨_ | _, text⟩
  · have htext : text = "\x7b" ++ part := by rw [← hpart, hrun]
    simp [output, htext]
  · have htext : text = "\x7b" ++ part := by rw [← hpart, hrun]
    simp [output, htext]

end Command.Ending

end MaskedReport
