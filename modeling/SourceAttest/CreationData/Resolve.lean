import SourceAttest.CreationData.Strategy

/-!
# Resolving creation data

The ways that a chain is configured for are tried one after the other. A failure of one is
reported and the next one is tried, whatever the failure was.
-/
namespace SourceAttest.CreationData

def place : String × Json := ("loc", .string "[GET_CREATION_DATA]")

/-- The ways that a chain is configured for. -/
def configured (chain : Chain) : List Strategy :=
  (if chain.explorerPage.isTruthy && chain.explorerPattern.isTruthy then [.scrape] else []) ++
  (if chain.index.isTruthy then [.graphql] else []) ++
  (if chain.archive.isTruthy then [.archive] else [])

def subject (chain : Chain) (address : Json) : List (String × Json) :=
  [place, ("chain", chain.id), ("address", address)]

/-- Try ways one after the other until one returns. -/
def tryEach (logger : Logger) (chain : Chain) (address : Json) : List Strategy → Action String
  | [] => do
    logger.error "Cannot fetch creation data" (subject chain address)
    Action.fail (.creationDataNotFound address chain.id)
  | strategy :: rest => do
    logger.info "Fetching creation data"
      (subject chain address ++ [("strategy", .string strategy.text)])
    match ← (findBy strategy chain address).attempt with
    | .ok data => pure data
    | .error fault =>
      logger.warning "Creation data strategy failed"
        (subject chain address ++
          [("strategy", .string strategy.text), ("err", .string fault.message)])
      tryEach logger chain address rest

def resolve (logger : Logger) (chain : Chain) (address : Json) : Action String :=
  tryEach logger chain address (configured chain)

end SourceAttest.CreationData
