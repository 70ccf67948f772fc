import ContentQuery.Proofs.FilterSyntax

namespace ContentQuery.Filter
open Text

section Stopping
variable {keep : Char → Bool}

theorem stops_nil : Stops keep [] := trivial

theorem stops_cons {c : Char} (ended : keep c = false) (rest : List Char) : Stops keep (c :: rest) :=
  ended

theorem stops_append {front : List Char} (filled : front ≠ []) (rest : List Char) :
    Stops keep (front ++ rest) ↔ Stops keep front := by
  cases front with
  | nil => exact absurd rfl filled
  | cons c more => rfl

theorem stops_dropWhile (text : List Char) : Stops keep (text.dropWhile keep) := by
  have stopped := List.head?_dropWhile_not keep text
  cases left : text.dropWhile keep with
  | nil => trivial
  | cons c rest =>
    rw [left] at stopped
    exact stopped

namespace Run

theorem takeWhile_append (run : Run keep) {rest : List Char} (stops : Stops keep rest) :
    (run.chars ++ rest).takeWhile keep = run.chars := by
  rw [List.takeWhile_append_of_pos run.kept]
  cases rest with
  | nil => simp
  | cons c more =>
    have ended : keep c = false := stops
    simp [ended]

theorem dropWhile_append (run : Run keep) {rest : List Char} (stops : Stops keep rest) :
    (run.chars ++ rest).dropWhile keep = rest := by
  rw [List.dropWhile_append_of_pos run.kept]
  cases rest with
  | nil => rfl
  | cons c more =>
    have ended : keep c = false := stops
    simp [ended]

def leading (keep : Char → Bool) (text : List Char) : Run keep :=
  ⟨text.takeWhile keep, fun c member => List.all_eq_true.mp List.all_takeWhile c member⟩

theorem leading_append (text : List Char) :
    (leading keep text).chars ++ text.dropWhile keep = text := List.takeWhile_append_dropWhile

end Run

theorem Filled.stops_append (run : Filled keep) {drop : Char → Bool}
    (apart : ∀ c, keep c = true → drop c = false) (rest : List Char) :
    Stops drop (run.chars ++ rest) := by
  apply (Filter.stops_append run.filled rest).mpr
  obtain ⟨⟨chars, kept⟩, filled⟩ := run
  cases chars with
  | nil => trivial
  | cons c more => exact apart c (kept c List.mem_cons_self)

theorem takeRun_chars_append (run : Filled keep) {rest : List Char} (stops : Stops keep rest) :
    takeRun keep (run.chars ++ rest) = .ok (run.chars, rest) := by
  unfold takeRun
  rw [run.takeWhile_append stops, run.dropWhile_append stops, if_neg]
  simpa using run.filled

theorem exists_run_of_takeRun {text taken rest : List Char}
    (read : takeRun keep text = .ok (taken, rest)) :
    ∃ run : Filled keep, run.chars = taken ∧ text = run.chars ++ rest ∧ Stops keep rest := by
  unfold takeRun at read
  split at read
  · cases read
  · rename_i filled
    cases read
    have some_taken : (Run.leading keep text).chars ≠ [] := fun none => filled (List.isEmpty_iff.mpr none)
    exact ⟨⟨Run.leading keep text, some_taken⟩, rfl, (Run.leading_append text).symm,
      stops_dropWhile text⟩

end Stopping

section Characters
variable {c : Char}

def startsItem (c : Char) : Bool := isWordChar c || c == '\'' || c == '"'

def startsOperand (c : Char) : Bool := startsItem c || c == '['

theorem startsOperand_of_isSpace (space : isSpace c = true) : startsOperand c = false := by
  simp only [isSpace, Bool.or_eq_true, beq_iff_eq] at space
  rcases space with ((rfl | rfl) | rfl) | rfl <;> decide

theorem startsItem_of_isSpace (space : isSpace c = true) : startsItem c = false :=
  (Bool.or_eq_false_iff.mp (startsOperand_of_isSpace space)).1

theorem startsItem_of_isWordChar (kept : isWordChar c = true) : startsItem c = true := by
  simp [startsItem, kept]

theorem isWordChar_of_isSpace (space : isSpace c = true) : isWordChar c = false := by
  have outside := startsItem_of_isSpace space
  simp only [startsItem, Bool.or_eq_false_iff] at outside
  exact outside.1.1

theorem isWordChar_of_isIdentifierChar (kept : isIdentifierChar c = true) : isWordChar c = true := by
  simp only [isIdentifierChar, Bool.or_eq_true] at kept
  simp only [isWordChar, Bool.or_eq_true]
  exact .inl (.inl (.inl (.inl kept)))

theorem isWordChar_mark (quote : Quote) : isWordChar quote.mark = false := by
  cases quote <;> decide

end Characters

section Items

theorem Item.exists_head (item : Item) :
    ∃ c more, item.chars = c :: more ∧ startsItem c = true := by
  cases item with
  | quoted quote inner => exact ⟨quote.mark, _, rfl, by cases quote <;> decide⟩
  | word run =>
    change ∃ c more, run.chars = c :: more ∧ startsItem c = true
    have kept := run.kept
    cases found : run.chars with
    | nil => exact absurd found run.filled
    | cons c more =>
      rw [found] at kept
      exact ⟨c, more, rfl, startsItem_of_isWordChar (kept c List.mem_cons_self)⟩

theorem Item.stops_append (item : Item) {keep : Char → Bool}
    (apart : ∀ c, keep c = true → startsItem c = false) (rest : List Char) :
    Stops keep (item.chars ++ rest) := by
  obtain ⟨c, more, head, starts⟩ := item.exists_head
  rw [head]
  exact Bool.eq_false_iff.mpr fun kept => by simp [apart c kept] at starts

theorem Item.stops_isSpace (item : Item) (rest : List Char) : Stops isSpace (item.chars ++ rest) :=
  item.stops_append (fun _ => startsItem_of_isSpace) rest

theorem Item.append_ne_cons (item : Item) {c : Char} (apart : startsItem c = false)
    (text rest : List Char) : item.chars ++ text ≠ c :: rest := by
  obtain ⟨first, more, head, starts⟩ := item.exists_head
  rw [head]
  intro same
  rw [(List.cons.inj same).1, apart] at starts
  cases starts

theorem takeWord_chars_append (run : Filled isWordChar) {rest : List Char}
    (stops : Stops isWordChar rest) :
    takeWord (run.chars ++ rest) = .ok (wordValue run.chars, rest) := by
  unfold takeWord
  rw [takeRun_chars_append run stops]
  rfl

theorem takeQuoted_append {mark : Char} (inner : Run (· != mark)) (rest : List Char) :
    takeQuoted mark (inner.chars ++ mark :: rest) = some (.str (String.ofList inner.chars), rest) := by
  have stops : Stops (· != mark) (mark :: rest) := by simp [Stops]
  unfold takeQuoted
  rw [inner.dropWhile_append stops, inner.takeWhile_append stops]

theorem takeItem_of_isWordChar {c : Char} (kept : isWordChar c = true) (rest : List Char) :
    takeItem (c :: rest) = takeWord (c :: rest) := by
  unfold takeItem
  split
  · rename_i single
    cases single
    exact absurd kept (by decide)
  · rename_i double
    cases double
    exact absurd kept (by decide)
  · rfl

theorem takeItem_chars_append (item : Item) {rest : List Char} (stops : Stops isWordChar rest) :
    takeItem (item.chars ++ rest) = .ok (item.value, rest) := by
  cases item with
  | quoted quote inner =>
    have taken := takeQuoted_append inner rest
    cases quote with
    | single => simp [Item.chars, Quote.mark, takeItem, Item.value] at taken ⊢; simp [taken]
    | double => simp [Item.chars, Quote.mark, takeItem, Item.value] at taken ⊢; simp [taken]
  | word run =>
    change takeItem (run.chars ++ rest) = .ok (wordValue run.chars, rest)
    rw [← takeWord_chars_append run stops]
    have kept := run.kept
    cases found : run.chars with
    | nil => exact absurd found run.filled
    | cons c more =>
      rw [found] at kept
      exact takeItem_of_isWordChar (kept c List.mem_cons_self) (more ++ rest)

theorem exists_item_of_takeWord {text rest : List Char} {value : Json}
    (read : takeWord text = .ok (value, rest)) :
    ∃ item : Item, item.value = value ∧ text = item.chars ++ rest := by
  unfold takeWord at read
  cases ran : takeRun isWordChar text with
  | error stop => simp [ran, Except.map] at read
  | ok taken =>
    obtain ⟨word, left⟩ := taken
    simp only [ran, Except.map, Except.ok.injEq, Prod.mk.injEq] at read
    obtain ⟨rfl, rfl⟩ := read
    obtain ⟨run, rfl, whole, _⟩ := exists_run_of_takeRun ran
    exact ⟨.word run, rfl, whole⟩

theorem exists_item_of_takeQuoted (quote : Quote) {text rest : List Char} {value : Json}
    (read : takeQuoted quote.mark text = some (value, rest)) :
    ∃ item : Item, item.value = value ∧ quote.mark :: text = item.chars ++ rest := by
  unfold takeQuoted at read
  split at read
  · cases read
  · rename_i c left closing
    cases read
    have stopped : Stops (· != quote.mark) (text.dropWhile (· != quote.mark)) :=
      stops_dropWhile text
    rw [closing] at stopped
    have marked : c = quote.mark := by simpa [Stops] using stopped
    subst marked
    refine ⟨.quoted quote (Run.leading _ text), rfl, ?_⟩
    have whole : (Run.leading (· != quote.mark) text).chars ++
        text.dropWhile (· != quote.mark) = text := Run.leading_append text
    rw [closing] at whole
    simp [Item.chars, whole]

theorem exists_item_of_takeItem {text rest : List Char} {value : Json}
    (read : takeItem text = .ok (value, rest)) :
    ∃ item : Item, item.value = value ∧ text = item.chars ++ rest := by
  unfold takeItem at read
  split at read
  · split at read
    · rename_i quoted
      cases read
      exact exists_item_of_takeQuoted .single quoted
    · exact exists_item_of_takeWord read
  · split at read
    · rename_i quoted
      cases read
      exact exists_item_of_takeQuoted .double quoted
    · exact exists_item_of_takeWord read
  · exact exists_item_of_takeWord read

end Items

section Lists

theorem skipSpace_append (space : Spacing) {rest : List Char} (stops : Stops isSpace rest) :
    skipSpace (space.chars ++ rest) = rest := space.dropWhile_append stops

theorem skipSpace_of_stops {text : List Char} (stops : Stops isSpace text) : skipSpace text = text :=
  skipSpace_append ⟨[], by simp⟩ stops

theorem exists_spacing (text : List Char) :
    ∃ space : Spacing, text = space.chars ++ skipSpace text ∧ Stops isSpace (skipSpace text) :=
  ⟨.leading isSpace text, (Run.leading_append text).symm, stops_dropWhile text⟩

theorem takeMore_of_bare {text : List Char} (bare : ∀ after, skipSpace text ≠ ',' :: after) :
    takeMore text = ([], text) := by
  rw [takeMore.eq_def]
  split
  · rename_i after comma
    exact absurd comma (bare after)
  · rfl

theorem takeMore_of_error {text after : List Char} {stop : Stop}
    (comma : skipSpace text = ',' :: after) (item : takeItem (skipSpace after) = .error stop) :
    takeMore text = ([], text) := by
  rw [takeMore.eq_def]
  split
  · rename_i other same
    rw [comma] at same
    cases same
    split
    · rfl
    · rename_i read
      rw [item] at read
      cases read
  · rfl

theorem takeMore_of_ok {text after rest : List Char} {value : Json}
    (comma : skipSpace text = ',' :: after) (item : takeItem (skipSpace after) = .ok (value, rest)) :
    takeMore text = (value :: (takeMore rest).1, (takeMore rest).2) := by
  rw [takeMore.eq_def]
  split
  · rename_i other same
    rw [comma] at same
    cases same
    split
    · rename_i read
      rw [item] at read
      cases read
    · rename_i read
      rw [item] at read
      cases read
      rfl
  · rename_i bare
    exact absurd comma (bare after)

theorem stops_spacing (space : Spacing) {keep : Char → Bool}
    (apart : ∀ c, isSpace c = true → keep c = false) {rest : List Char} (stops : Stops keep rest) :
    Stops keep (space.chars ++ rest) := by
  have kept := space.kept
  cases found : space.chars with
  | nil => exact stops
  | cons c more =>
    rw [found] at kept
    exact apart c (kept c List.mem_cons_self)

theorem stops_word_spacing (space : Spacing) {rest : List Char} (stops : Stops isWordChar rest) :
    Stops isWordChar (space.chars ++ rest) :=
  stops_spacing space (fun _ => isWordChar_of_isSpace) stops

theorem stops_further (more : List Further) {rest : List Char} (stops : Stops isWordChar rest) :
    Stops isWordChar (more.flatMap Further.chars ++ rest) := by
  cases more with
  | nil => exact stops
  | cons further others =>
    have comma : Stops isWordChar (',' :: (further.after.chars ++ (further.item.chars ++
        (others.flatMap Further.chars ++ rest)))) := stops_cons (by decide) _
    simpa [Further.chars] using stops_word_spacing further.before comma

theorem takeMore_chars_append (more : List Further) {rest : List Char}
    (stops : Stops isWordChar rest) (bare : ∀ after, skipSpace rest ≠ ',' :: after) :
    takeMore (more.flatMap Further.chars ++ rest) =
      (more.map fun further => further.item.value, rest) := by
  induction more with
  | nil => exact takeMore_of_bare bare
  | cons further others ih =>
    have left := stops_further others stops
    have text : (further :: others).flatMap Further.chars ++ rest =
        further.before.chars ++ ',' :: (further.after.chars ++ (further.item.chars ++
          (others.flatMap Further.chars ++ rest))) := by
      simp [Further.chars]
    have comma : skipSpace ((further :: others).flatMap Further.chars ++ rest) =
        ',' :: (further.after.chars ++ (further.item.chars ++
          (others.flatMap Further.chars ++ rest))) := by
      rw [text]
      exact skipSpace_append further.before (stops_cons (by decide) _)
    have item : takeItem (skipSpace (further.after.chars ++ (further.item.chars ++
        (others.flatMap Further.chars ++ rest)))) =
          .ok (further.item.value, others.flatMap Further.chars ++ rest) := by
      rw [skipSpace_append further.after (further.item.stops_isSpace _)]
      exact takeItem_chars_append further.item left
    rw [takeMore_of_ok comma item, ih]
    rfl

theorem exists_further_of_takeMore (text : List Char) :
    ∃ more : List Further, (more.map fun further => further.item.value) = (takeMore text).1 ∧
      text = more.flatMap Further.chars ++ (takeMore text).2 := by
  induction text using takeMore.induct with
  | case1 text after comma stop item =>
    rw [takeMore_of_error comma item]
    exact ⟨[], rfl, rfl⟩
  | case2 text after comma value rest item shorter _ _ _ ih =>
    obtain ⟨others, values, whole⟩ := ih
    obtain ⟨written, valued, behind⟩ := exists_item_of_takeItem item
    obtain ⟨before, start, _⟩ := exists_spacing text
    obtain ⟨gap, inner, _⟩ := exists_spacing after
    rw [takeMore_of_ok comma item]
    refine ⟨⟨before, gap, written⟩ :: others, ?_, ?_⟩
    · simp [valued, values]
    · rw [comma, inner, behind] at start
      rw [start]
      simp [Further.chars, ← whole]
  | case3 text bare =>
    rw [takeMore_of_bare bare]
    exact ⟨[], rfl, rfl⟩

theorem takeList_chars_append (listing : Listing) (rest : List Char) :
    takeList (listing.chars ++ rest) = some (.arr listing.values, rest) := by
  cases listing with
  | bare inner =>
    have opened : skipSpace (inner.chars ++ ']' :: rest) = ']' :: rest :=
      skipSpace_append inner (stops_cons (by decide) rest)
    have item : takeItem (']' :: rest) = .error ⟨.run, ']' :: rest⟩ := by
      rfl
    have closed : skipSpace (']' :: rest) = ']' :: rest := by
      rfl
    simp [Listing.chars, takeList, opened, takeItems, item, closed, Listing.values]
  | filled before first more after =>
    have last : Stops isWordChar (after.chars ++ ']' :: rest) :=
      stops_word_spacing after (stops_cons (by decide) rest)
    have closed : skipSpace (after.chars ++ ']' :: rest) = ']' :: rest :=
      skipSpace_append after (stops_cons (by decide) rest)
    have bare : ∀ left, skipSpace (after.chars ++ ']' :: rest) ≠ ',' :: left := by
      intro left
      simp [closed]
    have others := takeMore_chars_append more last bare
    have item := takeItem_chars_append first (stops_further more last)
    have opened := skipSpace_append before (first.stops_isSpace
      (more.flatMap Further.chars ++ (after.chars ++ ']' :: rest)))
    simp [Listing.chars, takeList, opened, takeItems, item, others, closed, Listing.values]

theorem exists_listing_of_takeList {text rest : List Char} {value : Json}
    (read : takeList text = some (value, rest)) :
    ∃ listing : Listing, .arr listing.values = value ∧ text = listing.chars ++ rest := by
  unfold takeList at read
  split at read
  · rename_i inner
    obtain ⟨before, start, stopped⟩ := exists_spacing inner
    cases taken : takeItem (skipSpace inner) with
    | error stop =>
      simp only [takeItems, taken, skipSpace_of_stops stopped] at read
      split at read
      · rename_i left closing
        cases read
        refine ⟨.bare before, rfl, ?_⟩
        rw [start, closing]
        simp [Listing.chars]
      · cases read
    | ok pair =>
      obtain ⟨first, left⟩ := pair
      obtain ⟨item, valued, behind⟩ := exists_item_of_takeItem taken
      obtain ⟨more, values, others⟩ := exists_further_of_takeMore left
      obtain ⟨after, last, _⟩ := exists_spacing (takeMore left).2
      simp only [takeItems, taken] at read
      split at read
      · rename_i final closing
        cases read
        refine ⟨.filled before item more after, ?_, ?_⟩
        · simp [Listing.values, valued, values]
        · rw [start, behind, others, last, closing]
          simp [Listing.chars]
      · cases read
  · cases read

theorem takeList_item_append (item : Item) (rest : List Char) : takeList (item.chars ++ rest) = none := by
  unfold takeList
  split
  · rename_i opened
    exact absurd opened (item.append_ne_cons (by decide) rest _)
  · rfl

theorem Operand.exists_head (operand : Operand) :
    ∃ c more, operand.chars = c :: more ∧ startsOperand c = true := by
  cases operand with
  | list listing => cases listing <;> exact ⟨'[', _, rfl, by decide⟩
  | single item =>
    obtain ⟨c, more, head, starts⟩ := item.exists_head
    exact ⟨c, more, head, by simp [startsOperand, starts]⟩

theorem Operand.stops_append (operand : Operand) {keep : Char → Bool}
    (apart : ∀ c, keep c = true → startsOperand c = false) (rest : List Char) :
    Stops keep (operand.chars ++ rest) := by
  obtain ⟨c, more, head, starts⟩ := operand.exists_head
  rw [head]
  exact Bool.eq_false_iff.mpr fun kept => by simp [apart c kept] at starts

theorem Operand.stops_isSpace (operand : Operand) (rest : List Char) :
    Stops isSpace (operand.chars ++ rest) :=
  operand.stops_append (fun _ => startsOperand_of_isSpace) rest

theorem takeValue_chars_append (space : Spacing) (operand : Operand) {rest : List Char}
    (stops : Stops isWordChar rest) :
    takeValue (space.chars ++ (operand.chars ++ rest)) = .ok (operand.value, rest) := by
  unfold takeValue
  rw [skipSpace_append space (operand.stops_isSpace rest)]
  cases operand with
  | list listing => simp [Operand.chars, takeList_chars_append, Operand.value]
  | single item =>
    simp [Operand.chars, takeList_item_append, takeItem_chars_append item stops, Operand.value]

theorem exists_operand_of_takeValue {text rest : List Char} {value : Json}
    (read : takeValue text = .ok (value, rest)) :
    ∃ (space : Spacing) (operand : Operand), operand.value = value ∧
      text = space.chars ++ (operand.chars ++ rest) := by
  obtain ⟨space, start, _⟩ := exists_spacing text
  unfold takeValue at read
  simp only at read
  split at read
  · rename_i taken listed
    cases read
    obtain ⟨listing, values, whole⟩ := exists_listing_of_takeList listed
    rw [whole] at start
    exact ⟨space, .list listing, values, start⟩
  · obtain ⟨item, valued, whole⟩ := exists_item_of_takeItem read
    rw [whole] at start
    exact ⟨space, .single item, valued, start⟩

end Lists

section Unique
variable {rest left : List Char}

theorem Run.append_inj {keep : Char → Bool} {first second : Run keep} (stops : Stops keep rest)
    (stopped : Stops keep left) (same : first.chars ++ rest = second.chars ++ left) :
    first = second ∧ rest = left := by
  constructor
  · apply Run.ext
    rw [← first.takeWhile_append stops, same, second.takeWhile_append stopped]
  · rw [← first.dropWhile_append stops, same, second.dropWhile_append stopped]

theorem Filled.append_inj {keep : Char → Bool} {first second : Filled keep} (stops : Stops keep rest)
    (stopped : Stops keep left) (same : first.chars ++ rest = second.chars ++ left) :
    first = second ∧ rest = left := by
  obtain ⟨run, behind⟩ := Run.append_inj stops stopped same
  exact ⟨Filled.ext (congrArg Run.chars run), behind⟩

theorem Item.quoted_ne_word (quote : Quote) (inner : List Char) (run : Filled isWordChar) :
    quote.mark :: inner ≠ run.chars := by
  intro same
  have kept := run.kept quote.mark (same ▸ List.mem_cons_self)
  rw [isWordChar_mark] at kept
  cases kept

theorem Item.chars_injective {first second : Item} (same : first.chars = second.chars) :
    first = second := by
  cases first with
  | quoted quote inner =>
    cases second with
    | quoted mark within =>
      obtain ⟨marks, texts⟩ := List.cons.inj same
      have quotes : quote = mark := by
        cases quote <;> cases mark <;> first | rfl | exact absurd marks (by decide)
      subst quotes
      have runs : inner = within := Run.ext (List.append_cancel_right texts)
      rw [runs]
    | word run => exact absurd same (Item.quoted_ne_word quote _ run)
  | word run =>
    cases second with
    | quoted quote inner => exact absurd same.symm (Item.quoted_ne_word quote _ run)
    | word other =>
      have runs : run = other := Filled.ext same
      rw [runs]

theorem Item.append_inj {first second : Item} (stops : Stops isWordChar rest)
    (stopped : Stops isWordChar left) (same : first.chars ++ rest = second.chars ++ left) :
    first = second ∧ rest = left := by
  have read := takeItem_chars_append first stops
  rw [same, takeItem_chars_append second stopped] at read
  have behind : left = rest := congrArg Prod.snd (Except.ok.inj read)
  subst behind
  exact ⟨Item.chars_injective (List.append_cancel_right same), rfl⟩

theorem further_append_inj {more others : List Further}
    (stops : Stops isWordChar rest) (stopped : Stops isWordChar left)
    (bare : ∀ after, skipSpace rest ≠ ',' :: after) (bared : ∀ after, skipSpace left ≠ ',' :: after)
    (same : more.flatMap Further.chars ++ rest = others.flatMap Further.chars ++ left) :
    more = others ∧ rest = left := by
  have comma : ∀ (further : Further) (text : List Char), ∃ after,
      skipSpace (further.chars ++ text) = ',' :: after := by
    intro further text
    refine ⟨further.after.chars ++ further.item.chars ++ text, ?_⟩
    simp only [Further.chars, List.append_assoc, List.cons_append]
    exact skipSpace_append further.before (stops_cons (by decide) _)
  induction more generalizing others with
  | nil =>
    cases others with
    | nil => exact ⟨rfl, same⟩
    | cons further more =>
      obtain ⟨after, read⟩ := comma further (more.flatMap Further.chars ++ left)
      simp only [List.flatMap_nil, List.nil_append, List.flatMap_cons, List.append_assoc] at same
      exact absurd (same ▸ read) (bare after)
  | cons further more ih =>
    cases others with
    | nil =>
      obtain ⟨after, read⟩ := comma further (more.flatMap Further.chars ++ rest)
      simp only [List.flatMap_nil, List.nil_append, List.flatMap_cons, List.append_assoc] at same
      exact absurd (same ▸ read) (bared after)
    | cons other others =>
      simp only [List.flatMap_cons, Further.chars, List.append_assoc, List.cons_append] at same
      obtain ⟨before, commas⟩ := Run.append_inj (stops_cons (by decide) _) (stops_cons (by decide) _) same
      obtain ⟨after, items⟩ := Run.append_inj (further.item.stops_isSpace _)
        (other.item.stops_isSpace _) (List.cons.inj commas).2
      obtain ⟨item, tails⟩ := Item.append_inj (stops_further more stops) (stops_further others stopped) items
      obtain ⟨rfl, behind⟩ := ih tails
      cases further
      cases other
      cases before
      cases after
      cases item
      exact ⟨rfl, behind⟩

theorem Listing.append_inj {first second : Listing}
    (same : first.chars ++ rest = second.chars ++ left) : first = second ∧ rest = left := by
  have closing : ∀ text, Stops isSpace (']' :: text) := stops_cons (by decide)
  cases first with
  | bare inner =>
    cases second with
    | bare within =>
      simp only [chars, List.cons_append, List.append_assoc, List.cons.injEq, true_and] at same
      obtain ⟨rfl, closed⟩ := Run.append_inj (closing _) (closing _) same
      exact ⟨rfl, (List.cons.inj closed).2⟩
    | filled before item more after =>
      simp only [chars, List.cons_append, List.append_assoc, List.cons.injEq, true_and] at same
      obtain ⟨_, same⟩ := Run.append_inj (closing _) (item.stops_isSpace _) same
      exact absurd same.symm (item.append_ne_cons (by decide) _ _)
  | filled before item more after =>
    cases second with
    | bare inner =>
      simp only [chars, List.cons_append, List.append_assoc, List.cons.injEq, true_and] at same
      obtain ⟨_, same⟩ := Run.append_inj (item.stops_isSpace _) (closing _) same
      exact absurd same (item.append_ne_cons (by decide) _ _)
    | filled ahead other others behind =>
      have ends : ∀ (space : Spacing) (text : List Char),
          Stops isWordChar (space.chars ++ ']' :: text) :=
        fun space text => stops_word_spacing space (stops_cons (by decide) text)
      have bare : ∀ (space : Spacing) (text left : List Char),
          skipSpace (space.chars ++ ']' :: text) ≠ ',' :: left := by
        intro space text left
        rw [skipSpace_append space (closing text)]
        simp
      simp only [chars, List.cons_append, List.append_assoc, List.nil_append, List.cons.injEq,
        true_and] at same
      obtain ⟨rfl, items⟩ := Run.append_inj (item.stops_isSpace _) (other.stops_isSpace _) same
      obtain ⟨rfl, tails⟩ := Item.append_inj (stops_further more (ends after rest))
        (stops_further others (ends behind left)) items
      obtain ⟨rfl, pads⟩ := further_append_inj (ends after rest) (ends behind left)
        (bare after rest) (bare behind left) tails
      obtain ⟨rfl, closed⟩ := Run.append_inj (closing rest) (closing left) pads
      exact ⟨rfl, (List.cons.inj closed).2⟩

theorem Operand.append_inj {first second : Operand} (stops : Stops isWordChar rest)
    (stopped : Stops isWordChar left) (same : first.chars ++ rest = second.chars ++ left) :
    first = second ∧ rest = left := by
  cases first with
  | list listing =>
    cases second with
    | list other =>
      obtain ⟨rfl, behind⟩ := Listing.append_inj same
      exact ⟨rfl, behind⟩
    | single item =>
      have read := takeList_chars_append listing rest
      change listing.chars ++ rest = item.chars ++ left at same
      rw [same, takeList_item_append] at read
      cases read
  | single item =>
    cases second with
    | list listing =>
      have read := takeList_chars_append listing left
      change item.chars ++ rest = listing.chars ++ left at same
      rw [← same, takeList_item_append] at read
      cases read
    | single other =>
      obtain ⟨rfl, behind⟩ := Item.append_inj stops stopped same
      exact ⟨rfl, behind⟩

end Unique
end ContentQuery.Filter
