import SignalNet.Toml.Tree

/-!
Contract: the descriptions of the built-in classes.

They are configuration data like any other, so they load together with further
classes, and they can be left out.
-/

set_option autoImplicit false

namespace SignalNet.Descriptions

/-- A variable with its type and its documentation, and further fields. -/
def described (label type doc : String) (further : List (String × Toml)) : String × Toml :=
  (label, .table ([("type", .string type), ("doc", .string doc)] ++ further))

def startsAt (x : Float) : List (String × Toml) := [("value", .float x)]

def flagged (tokens : List String) : List (String × Toml) :=
  [("flags", .array (tokens.map Toml.string))]

def plainClass (label : String) (vars : List (String × Toml)) : String × Toml :=
  (label, .table [("vars", .table vars)])

def presetClass (label : String) (vars presets : List (String × Toml)) : String × Toml :=
  (label, .table [("vars", .table vars), ("presets", .table presets)])

def number : String × Toml :=
  plainClass "number"
    [described "value" "double" "Value emitted every cycle." (startsAt 0),
      described "out" "double" "Last emitted value." []]

def counter : String × Toml :=
  plainClass "counter"
    [described "inc" "double" "Added to out every cycle." (startsAt 1),
      described "limit" "double"
        "End the stream once out reaches this; 0 runs forever." (startsAt 0),
      described "out" "double" "Running count." (startsAt 0)]

def sineTone : String × Toml :=
  presetClass "sine_tone"
    [described "freq" "double" "Frequency in Hz." (startsAt 440),
      described "gain" "float" "Linear output gain." (startsAt 1),
      described "ch_cnt" "uint" "Output channel count."
        ([("value", .integer 1)] ++ flagged ["init"]),
      described "out" "audio" "Generated audio." []]
    [("low", .table [("freq", .float 220)]),
      ("high", .table [("freq", .float 880), ("gain", .float 0.5)])]

def audioGain : String × Toml :=
  presetClass "audio_gain"
    [described "in" "audio" "Audio input." (flagged ["src"]),
      described "gain" "float" "Linear gain." (startsAt 1),
      described "out" "audio" "Scaled audio." []]
    [("mute", .table [("gain", .float 0)]), ("unity", .table [("gain", .float 1)])]

def audioMix : String × Toml :=
  plainClass "audio_mix"
    [described "in0" "audio" "First input." (flagged ["src"]),
      described "in1" "audio" "Second input." (flagged ["src"]),
      described "gain0" "float" "Gain of the first input." (startsAt 1),
      described "gain1" "float" "Gain of the second input." (startsAt 1),
      described "out" "audio" "Mixed audio." []]

def audioIn : String × Toml :=
  plainClass "audio_in"
    [described "out" "audio" "Audio read from the bound input device." []]

def audioOut : String × Toml :=
  plainClass "audio_out"
    [described "in" "audio" "Audio written to the bound output device." (flagged ["src"])]

/-- The description of all built-in classes. -/
def builtin : List (String × Toml) :=
  [("classes", .table [number, counter, sineTone, audioGain, audioMix, audioIn, audioOut])]

end SignalNet.Descriptions
