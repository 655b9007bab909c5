/-!
What the command line of a load run can say: values for the parameters of the run, or that it is to
print a notice about itself and not to run.
-/

namespace JobPool.Load

/-- What can be given on the command line. -/
inductive Parameter where
  | name
  | workers
  | queueCapacity
  | jobs
  | jobMillis
  | failEvery
  | retries
  | config
  | reportMillis
  deriving DecidableEq, Repr

namespace Parameter

/-- All parameters. -/
def all : List Parameter :=
  [name, workers, queueCapacity, jobs, jobMillis, failEvery, retries, config, reportMillis]

/-- The name of the option, without its dashes. -/
def word : Parameter → String
  | name => "name"
  | workers => "workers"
  | queueCapacity => "queue-capacity"
  | jobs => "jobs"
  | jobMillis => "job-millis"
  | failEvery => "fail-every"
  | retries => "retries"
  | config => "config"
  | reportMillis => "report-interval-ms"

/-- What stands for the value in a report. -/
def valueName : Parameter → String
  | name => "NAME"
  | workers => "WORKERS"
  | queueCapacity => "QUEUE_CAPACITY"
  | jobs => "JOBS"
  | jobMillis => "JOB_MILLIS"
  | failEvery => "FAIL_EVERY"
  | retries => "RETRIES"
  | config => "JSON_FILE"
  | reportMillis => "REPORT_INTERVAL_MS"

/-- What the parameter is for. -/
def description : Parameter → String
  | name => "Dispatcher name, used as metric label"
  | workers => "Number of workers"
  | queueCapacity => "Capacity of the job queue"
  | jobs => "Number of jobs to submit"
  | jobMillis => "How long every job sleeps"
  | failEvery => "Let every n-th job fail (0 disables failures)"
  | retries => "Retries for failed jobs"
  | config =>
      "Dispatcher config (JSON). Note that this excludes --workers, --queue-capacity and --retries"
  | reportMillis => "Interval for printing and resetting the max-used-workers gauge"

/-- The option as a report shows it. -/
def usage (p : Parameter) : String := s!"--{p.word} <{p.valueName}>"

/-- The parameter whose option has this name. -/
def ofWord? (word : String) : Option Parameter := all.find? fun p => p.word = word

end Parameter

/-- What can be printed instead of a run. -/
inductive Notice where
  | help
  | version
  deriving DecidableEq, Repr

namespace Notice

/-- All notices. -/
def all : List Notice := [help, version]

/-- The name of the option, without its dashes. -/
def word : Notice → String
  | help => "help"
  | version => "version"

/-- The short form of the option, without its dash. -/
def flag : Notice → Char
  | help => 'h'
  | version => 'V'

/-- The notice whose option has this name. -/
def ofWord? (word : String) : Option Notice := all.find? fun n => n.word = word

/-- The notice whose option has this short form. -/
def ofFlag? (flag : Char) : Option Notice := all.find? fun n => n.flag = flag

/-- The lines on an option, by its forms and what it is for. -/
def optionLines (forms description : String) : List String := [forms, "          " ++ description]

/-- The lines on every option. -/
def allOptionLines : List String :=
  (Parameter.all.flatMap fun p => optionLines ("      " ++ p.usage) p.description)
    ++ optionLines "  -h, --help" "Print help" ++ optionLines "  -V, --version" "Print version"

/-- The text of a notice. -/
def text : Notice → String
  | help => "\n".intercalate (
      ["Load generator that drives a workerpool dispatcher and prints its metrics.", "",
        "Usage: workerpool-demo [OPTIONS]", "", "Options:"] ++ allOptionLines)
  | version => "workerpool-demo 0.1.0"

end Notice

end JobPool.Load
