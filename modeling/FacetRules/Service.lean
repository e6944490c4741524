import FacetRules.Command

/-!
# The service

A service answers commands from one catalog, which it keeps in display order.
Another catalog can take its place; whoever holds the former one keeps it.
-/

namespace FacetRules

structure Service where
  catalog : Catalog

namespace Service

/-- Puts a catalog into service, in display order. -/
def ofCatalog (c : Catalog) : Service where
  catalog := c.presort

instance : EmptyCollection Service where
  emptyCollection := ofCatalog ∅

instance : Inhabited Service where
  default := ∅

/-- Puts another catalog into service, and gives the former one back. -/
def replace (s : Service) (c : Catalog) : Catalog × Service :=
  (s.catalog, ofCatalog c)

def find (s : Service) (q : Conditions) : Except Error Answer :=
  s.catalog.findCommand q

def dump (s : Service) (options : DumpOptions) : Except Error Answer :=
  s.catalog.dumpCommand options

def stats (s : Service) : Stats :=
  s.catalog.stats

end Service
end FacetRules
