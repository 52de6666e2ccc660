import CommandShell.Command
import CommandShell.Text

/-!
# Command tables

Handlers in the order in which their names first came, no two of them with one name.
-/

namespace CommandShell

/-- Puts a handler in the place of the one with its name, or at the end; also
the handler that it replaced. -/
def Handler.place (handler : Handler) : List Handler → Option Handler × List Handler
  | [] => (none, [handler])
  | first :: rest =>
    if first.name = handler.name then (some first, handler :: rest)
    else
      let (replaced, placed) := handler.place rest
      (replaced, first :: placed)

theorem Handler.place_cons_of_eq (handler : Handler) {first : Handler}
    (rest : List Handler) (h : first.name = handler.name) :
    handler.place (first :: rest) = (some first, handler :: rest) := by
  simp [place, h]

theorem Handler.place_cons_of_ne (handler : Handler) {first : Handler}
    (rest : List Handler) (h : first.name ≠ handler.name) :
    handler.place (first :: rest) =
      ((handler.place rest).1, first :: (handler.place rest).2) := by
  simp [place, h]

theorem Handler.names_place (handler : Handler) (handlers : List Handler) :
    (handler.place handlers).2.map Handler.name =
      if handler.name ∈ handlers.map Handler.name then handlers.map Handler.name
      else handlers.map Handler.name ++ [handler.name] := by
  induction handlers with
  | nil => rfl
  | cons first rest ih =>
    by_cases h : first.name = handler.name
    · simp [place_cons_of_eq, h]
    · have hne : ¬ handler.name = first.name := fun e => h e.symm
      simp only [handler.place_cons_of_ne rest h, List.map_cons, ih, List.mem_cons, hne,
        false_or]
      split <;> rfl

theorem Handler.place_fst (handler : Handler) (handlers : List Handler) :
    (handler.place handlers).1 =
      handlers.find? fun other => other.name = handler.name := by
  induction handlers with
  | nil => rfl
  | cons first rest ih =>
    by_cases h : first.name = handler.name
    · simp [place_cons_of_eq, h]
    · simpa [handler.place_cons_of_ne rest h, h] using ih

theorem Handler.find?_place (handler : Handler) (handlers : List Handler) (name : String) :
    ((handler.place handlers).2.find? fun other => other.name = name) =
      if handler.name = name then some handler
      else handlers.find? fun other => other.name = name := by
  induction handlers with
  | nil => by_cases h : handler.name = name <;> simp [place, h]
  | cons first rest ih =>
    by_cases hfirst : first.name = handler.name
    · by_cases h : handler.name = name
      · simp [handler.place_cons_of_eq rest hfirst, h]
      · have hother : ¬ first.name = name := hfirst ▸ h
        simp [handler.place_cons_of_eq rest hfirst, h, hother]
    · rw [handler.place_cons_of_ne rest hfirst]
      by_cases h : first.name = name
      · have hother : ¬ handler.name = name := fun e => hfirst (h.trans e.symm)
        simp [h, hother]
      · simpa [h] using ih

structure Table where
  handlers : List Handler
  nodup : (handlers.map Handler.name).Nodup

namespace Table

def empty : Table := ⟨[], List.nodup_nil⟩

def names (table : Table) : List String :=
  table.handlers.map Handler.name

def size (table : Table) : Nat :=
  table.handlers.length

def isEmpty (table : Table) : Bool :=
  table.handlers.isEmpty

def get? (table : Table) (name : String) : Option Handler :=
  table.handlers.find? fun handler => handler.name = name

def contains (table : Table) (name : String) : Bool :=
  table.handlers.any fun handler => handler.name = name

def insert (table : Table) (handler : Handler) : Option Handler × Table :=
  ((handler.place table.handlers).1, ⟨(handler.place table.handlers).2, by
    rw [handler.names_place]
    split
    · exact table.nodup
    · rename_i h
      rw [List.nodup_append]
      refine ⟨table.nodup, by simp, ?_⟩
      intro name hname other hother
      simp only [List.mem_singleton] at hother
      subst hother
      exact fun e => h (e ▸ hname)⟩)

def insertionRecord (handler : Handler) (replaced : Option Handler) : LogRecord :=
  if replaced.isSome then .commandReplaced handler.name
  else .commandRegistered handler.name

def insertAll (table : Table) (handlers : List Handler) : Table :=
  handlers.foldl (fun table handler => (table.insert handler).2) table

def describeHandler (handler : Handler) : String :=
  "CommandHandler \x7b name: " ++ Text.quoted handler.name ++ " \x7d"

/-- The diagnostic text of a table. -/
def describe (table : Table) : String :=
  "CommandTable \x7b commands: \x7b" ++
    String.intercalate ", " (table.handlers.map fun handler =>
      Text.quoted handler.name ++ ": " ++ describeHandler handler) ++
    "\x7d \x7d"

theorem insert_fst (table : Table) (handler : Handler) :
    (table.insert handler).1 = table.get? handler.name :=
  handler.place_fst table.handlers

theorem get?_insert (table : Table) (handler : Handler) (name : String) :
    (table.insert handler).2.get? name =
      if handler.name = name then some handler else table.get? name :=
  handler.find?_place table.handlers name

theorem names_insert (table : Table) (handler : Handler) :
    (table.insert handler).2.names =
      if handler.name ∈ table.names then table.names
      else table.names ++ [handler.name] :=
  handler.names_place table.handlers

end Table
end CommandShell
