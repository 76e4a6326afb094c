import AccessPolicy.Time.Zone

namespace AccessPolicy.ZoneTable

def cairo : List (Int × Int) :=
  [(18578760, 180), (18800460, 120), (19102920, 180), (19314540, 120), (19627080, 180),
   (19818540, 120), (20151240, 180), (20332620, 120), (20675400, 180), (20846700, 120),
   (21209640, 180), (21357900, 120), (21401160, 180), (21431340, 120), (23336520, 180),
   (23396940, 120), (23447400, 180), (23527980, 120), (28043880, 180), (28305900, 120),
   (28568040, 180), (28840140, 120), (29092200, 180), (29364300, 120), (29616360, 180),
   (29888460, 120), (30150600, 180), (30412620, 120), (30674760, 180), (30936780, 120),
   (31198920, 180), (31460940, 120), (31723080, 180), (31995180, 120), (32247240, 180),
   (32519340, 120), (32781480, 180), (33043500, 120), (33305640, 180), (33567660, 120),
   (33829800, 180), (34091820, 120), (34353960, 180), (34615980, 120), (34878120, 180),
   (35150220, 120), (35402280, 180), (35674380, 120)]

def buenosAires : List (Int × Int) :=
  [(19983060, -120), (20093880, -180), (20406420, -120), (20618040, -180)]

def chicago : List (Int × Int) :=
  [(18541920, -300), (18844260, -360), (19066080, -300), (19368420, -360), (19560000, -300),
   (19902660, -360), (20084160, -300), (20426820, -360), (20608320, -300), (20950980, -360),
   (21142560, -300), (21485220, -360), (21666720, -300), (22009380, -360), (22190880, -300),
   (22533540, -360), (22715040, -300), (23057700, -360), (23239200, -300), (23581860, -360),
   (23763360, -300), (24106020, -360), (24297600, -300), (24640260, -360), (24821760, -300),
   (25164420, -360), (25345920, -300), (25688580, -360), (25870080, -300), (26212740, -360),
   (26394240, -300), (26736900, -360), (26928480, -300), (27271140, -360), (27452640, -300),
   (27795300, -360), (27976800, -300), (28319460, -360), (28500960, -300), (28843620, -360),
   (29025120, -300), (29367780, -360), (29549280, -300), (29891940, -360), (30083520, -300),
   (30426180, -360), (30607680, -300), (30950340, -360), (31131840, -300), (31474500, -360),
   (31656000, -300), (31998660, -360), (32180160, -300), (32522820, -360), (32714400, -300),
   (33057060, -360), (33238560, -300), (33581220, -360), (33762720, -300), (34105380, -360),
   (34286880, -300), (34629540, -360), (34811040, -300), (35153700, -360), (35335200, -300),
   (35677860, -360)]

def losAngeles : List (Int × Int) :=
  [(18542040, -420), (18844380, -480), (19066200, -420), (19368540, -480), (19560120, -420),
   (19902780, -480), (20084280, -420), (20426940, -480), (20608440, -420), (20951100, -480),
   (21142680, -420), (21485340, -480), (21666840, -420), (22009500, -480), (22191000, -420),
   (22533660, -480), (22715160, -420), (23057820, -480), (23239320, -420), (23581980, -480),
   (23763480, -420), (24106140, -480), (24297720, -420), (24640380, -480), (24821880, -420),
   (25164540, -480), (25346040, -420), (25688700, -480), (25870200, -420), (26212860, -480),
   (26394360, -420), (26737020, -480), (26928600, -420), (27271260, -480), (27452760, -420),
   (27795420, -480), (27976920, -420), (28319580, -480), (28501080, -420), (28843740, -480),
   (29025240, -420), (29367900, -480), (29549400, -420), (29892060, -480), (30083640, -420),
   (30426300, -480), (30607800, -420), (30950460, -480), (31131960, -420), (31474620, -480),
   (31656120, -420), (31998780, -480), (32180280, -420), (32522940, -480), (32714520, -420),
   (33057180, -480), (33238680, -420), (33581340, -480), (33762840, -420), (34105500, -480),
   (34287000, -420), (34629660, -480), (34811160, -420), (35153820, -480), (35335320, -420),
   (35677980, -480)]

def newYork : List (Int × Int) :=
  [(18541860, -240), (18844200, -300), (19066020, -240), (19368360, -300), (19559940, -240),
   (19902600, -300), (20084100, -240), (20426760, -300), (20608260, -240), (20950920, -300),
   (21142500, -240), (21485160, -300), (21666660, -240), (22009320, -300), (22190820, -240),
   (22533480, -300), (22714980, -240), (23057640, -300), (23239140, -240), (23581800, -300),
   (23763300, -240), (24105960, -300), (24297540, -240), (24640200, -300), (24821700, -240),
   (25164360, -300), (25345860, -240), (25688520, -300), (25870020, -240), (26212680, -300),
   (26394180, -240), (26736840, -300), (26928420, -240), (27271080, -300), (27452580, -240),
   (27795240, -300), (27976740, -240), (28319400, -300), (28500900, -240), (28843560, -300),
   (29025060, -240), (29367720, -300), (29549220, -240), (29891880, -300), (30083460, -240),
   (30426120, -300), (30607620, -240), (30950280, -300), (31131780, -240), (31474440, -300),
   (31655940, -240), (31998600, -300), (32180100, -240), (32522760, -300), (32714340, -240),
   (33057000, -300), (33238500, -240), (33581160, -300), (33762660, -240), (34105320, -300),
   (34286820, -240), (34629480, -300), (34810980, -240), (35153640, -300), (35335140, -240),
   (35677800, -300)]

def saoPaulo : List (Int × Int) :=
  [(18481080, -180), (18823860, -120), (19005240, -180), (19378260, -120), (19539480, -180),
   (19872180, -120), (20053560, -180), (20406420, -120), (20577720, -180), (20930580, -120),
   (21111960, -180), (21454740, -120), (21636120, -180), (21978900, -120), (22170360, -180),
   (22513140, -120), (22684440, -180), (23037300, -120), (23208600, -180), (23561460, -120),
   (23742840, -180), (24085620, -120), (24267000, -180), (24609780, -120), (24791160, -180),
   (25133940, -120), (25315320, -180), (25688340, -120), (25839480, -180)]

def stJohns : List (Int × Int) :=
  [(18541651, -150), (18843991, -210), (19065811, -150), (19368151, -210), (19559731, -150),
   (19902391, -210), (20083891, -150), (20426551, -210), (20608051, -150), (20950711, -210),
   (21142291, -150), (21484951, -210), (21666451, -150), (22009230, -210), (22190730, -150),
   (22533390, -210), (22714890, -150), (23057550, -210), (23239050, -150), (23581710, -210),
   (23763210, -150), (24105870, -210), (24297450, -150), (24640110, -210), (24821610, -150),
   (25164270, -210), (25345770, -150), (25688430, -210), (25869930, -150), (26212590, -210),
   (26394090, -150), (26736750, -210), (26928330, -150), (27270990, -210), (27452490, -150),
   (27795150, -210), (27976650, -150), (28319310, -210), (28500810, -150), (28843470, -210),
   (29024970, -150), (29367630, -210), (29549130, -150), (29891790, -210), (30083370, -150),
   (30426030, -210), (30607530, -150), (30950190, -210), (31131690, -150), (31474350, -210),
   (31655850, -150), (31998510, -210), (32180010, -150), (32522670, -210), (32714250, -150),
   (33056910, -210), (33238410, -150), (33581070, -210), (33762570, -150), (34105230, -210),
   (34286730, -150), (34629390, -210), (34810890, -150), (35153550, -210), (35335050, -150),
   (35677710, -210)]

def troll : List (Int × Int) :=
  [(18531420, 120), (18843900, 0), (19055580, 120), (19368060, 0), (19579740, 120), (19892220, 0),
   (20113980, 120), (20416380, 0), (20638140, 120), (20940540, 0), (21162300, 120), (21474780, 0),
   (21686460, 120), (21998940, 0), (22210620, 120), (22523100, 0), (22744860, 120), (23047260, 0),
   (23269020, 120), (23571420, 0), (23793180, 120), (24095580, 0), (24317340, 120), (24629820, 0),
   (24841500, 120), (25153980, 0), (25365660, 120), (25678140, 0), (25899900, 120), (26202300, 0),
   (26424060, 120), (26726460, 0), (26948220, 120), (27260700, 0), (27472380, 120), (27784860, 0),
   (27996540, 120), (28309020, 0), (28530780, 120), (28833180, 0), (29054940, 120), (29357340, 0),
   (29579100, 120), (29881500, 0), (30103260, 120), (30415740, 0), (30627420, 120), (30939900, 0),
   (31151580, 120), (31464060, 0), (31685820, 120), (31988220, 0), (32209980, 120), (32512380, 0),
   (32734140, 120), (33046620, 0), (33258300, 120), (33570780, 0), (33782460, 120), (34094940, 0),
   (34306620, 120), (34619100, 0), (34840860, 120), (35143260, 0), (35365020, 120), (35667420, 0)]

def tehran : List (Int × Int) :=
  [(18523950, 270), (18788850, 210), (20100750, 270), (20365650, 210), (20627790, 270),
   (20892690, 210), (21153390, 270), (21418290, 210), (21678990, 270), (21943890, 210),
   (22204590, 270), (22469490, 210), (22731630, 270), (22996530, 210), (23257230, 270),
   (23522130, 210), (23782830, 270), (24047730, 210), (24308430, 270), (24573330, 210),
   (24835470, 270), (25100370, 210), (25361070, 270), (25625970, 210), (25886670, 270),
   (26151570, 210), (26412270, 270), (26677170, 210), (26939310, 270), (27204210, 210),
   (27464910, 270), (27729810, 210)]

def lordHowe : List (Int × Int) :=
  [(18530820, 630), (18843330, 660), (19065060, 630), (19367490, 660), (19579140, 630),
   (19891650, 660), (20123460, 630), (20385570, 660), (20647620, 630), (20909730, 660),
   (21171780, 630), (21433890, 660), (21695940, 630), (21958050, 660), (22220100, 630),
   (22492290, 660), (22754340, 630), (23016450, 660), (23278500, 630), (23540610, 660),
   (23802660, 630), (24064770, 660), (24326820, 630), (24588930, 660), (24850980, 630),
   (25113090, 660), (25375140, 630), (25647330, 660), (25909380, 630), (26171490, 660),
   (26433540, 630), (26695650, 660), (26957700, 630), (27219810, 660), (27481860, 630),
   (27743970, 660), (28006020, 630), (28268130, 660), (28540260, 630), (28802370, 660),
   (29064420, 630), (29326530, 660), (29588580, 630), (29850690, 660), (30112740, 630),
   (30374850, 660), (30636900, 630), (30899010, 660), (31161060, 630), (31433250, 660),
   (31695300, 630), (31957410, 660), (32219460, 630), (32481570, 660), (32743620, 630),
   (33005730, 660), (33267780, 630), (33529890, 660), (33791940, 630), (34054050, 660),
   (34316100, 630), (34588290, 660), (34850340, 630), (35112450, 660), (35374500, 630), (35636610, 660)]

def sydney : List (Int × Int) :=
  [(18530880, 600), (18843360, 660), (19065120, 600), (19367520, 660), (19579200, 600),
   (19891680, 660), (20123520, 600), (20385600, 660), (20647680, 600), (20909760, 660),
   (21171840, 600), (21433920, 660), (21696000, 600), (21958080, 660), (22220160, 600),
   (22492320, 660), (22754400, 600), (23016480, 660), (23278560, 600), (23540640, 660),
   (23802720, 600), (24064800, 660), (24326880, 600), (24588960, 660), (24851040, 600),
   (25113120, 660), (25375200, 600), (25647360, 660), (25909440, 600), (26171520, 660),
   (26433600, 600), (26695680, 660), (26957760, 600), (27219840, 660), (27481920, 600),
   (27744000, 660), (28006080, 600), (28268160, 660), (28540320, 600), (28802400, 660),
   (29064480, 600), (29326560, 660), (29588640, 600), (29850720, 660), (30112800, 600),
   (30374880, 660), (30636960, 600), (30899040, 660), (31161120, 600), (31433280, 660),
   (31695360, 600), (31957440, 660), (32219520, 600), (32481600, 660), (32743680, 600),
   (33005760, 660), (33267840, 600), (33529920, 660), (33792000, 600), (34054080, 660),
   (34316160, 600), (34588320, 660), (34850400, 600), (35112480, 660), (35374560, 600), (35636640, 660)]

def berlin : List (Int × Int) :=
  [(18531420, 120), (18843900, 60), (19055580, 120), (19368060, 60), (19579740, 120), (19892220, 60),
   (20113980, 120), (20416380, 60), (20638140, 120), (20940540, 60), (21162300, 120), (21474780, 60),
   (21686460, 120), (21998940, 60), (22210620, 120), (22523100, 60), (22744860, 120), (23047260, 60),
   (23269020, 120), (23571420, 60), (23793180, 120), (24095580, 60), (24317340, 120), (24629820, 60),
   (24841500, 120), (25153980, 60), (25365660, 120), (25678140, 60), (25899900, 120), (26202300, 60),
   (26424060, 120), (26726460, 60), (26948220, 120), (27260700, 60), (27472380, 120), (27784860, 60),
   (27996540, 120), (28309020, 60), (28530780, 120), (28833180, 60), (29054940, 120), (29357340, 60),
   (29579100, 120), (29881500, 60), (30103260, 120), (30415740, 60), (30627420, 120), (30939900, 60),
   (31151580, 120), (31464060, 60), (31685820, 120), (31988220, 60), (32209980, 120), (32512380, 60),
   (32734140, 120), (33046620, 60), (33258300, 120), (33570780, 60), (33782460, 120), (34094940, 60),
   (34306620, 120), (34619100, 60), (34840860, 120), (35143260, 60), (35365020, 120), (35667420, 60)]

def kiev : List (Int × Int) :=
  [(18531420, 180), (18843900, 120), (19055580, 180), (19368060, 120), (19579740, 180),
   (19892220, 120), (20113980, 180), (20416380, 120), (20638140, 180), (20940540, 120),
   (21162300, 180), (21474780, 120), (21686460, 180), (21998940, 120), (22210620, 180),
   (22523100, 120), (22744860, 180), (23047260, 120), (23269020, 180), (23571420, 120),
   (23793180, 180), (24095580, 120), (24317340, 180), (24629820, 120), (24841500, 180),
   (25153980, 120), (25365660, 180), (25678140, 120), (25899900, 180), (26202300, 120),
   (26424060, 180), (26726460, 120), (26948220, 180), (27260700, 120), (27472380, 180),
   (27784860, 120), (27996540, 180), (28309020, 120), (28530780, 180), (28833180, 120),
   (29054940, 180), (29357340, 120), (29579100, 180), (29881500, 120), (30103260, 180),
   (30415740, 120), (30627420, 180), (30939900, 120), (31151580, 180), (31464060, 120),
   (31685820, 180), (31988220, 120), (32209980, 180), (32512380, 120), (32734140, 180),
   (33046620, 120), (33258300, 180), (33570780, 120), (33782460, 180), (34094940, 120),
   (34306620, 180), (34619100, 120), (34840860, 180), (35143260, 120), (35365020, 180), (35667420, 120)]

def london : List (Int × Int) :=
  [(18531420, 60), (18843900, 0), (19055580, 60), (19368060, 0), (19579740, 60), (19892220, 0),
   (20113980, 60), (20416380, 0), (20638140, 60), (20940540, 0), (21162300, 60), (21474780, 0),
   (21686460, 60), (21998940, 0), (22210620, 60), (22523100, 0), (22744860, 60), (23047260, 0),
   (23269020, 60), (23571420, 0), (23793180, 60), (24095580, 0), (24317340, 60), (24629820, 0),
   (24841500, 60), (25153980, 0), (25365660, 60), (25678140, 0), (25899900, 60), (26202300, 0),
   (26424060, 60), (26726460, 0), (26948220, 60), (27260700, 0), (27472380, 60), (27784860, 0),
   (27996540, 60), (28309020, 0), (28530780, 60), (28833180, 0), (29054940, 60), (29357340, 0),
   (29579100, 60), (29881500, 0), (30103260, 60), (30415740, 0), (30627420, 60), (30939900, 0),
   (31151580, 60), (31464060, 0), (31685820, 60), (31988220, 0), (32209980, 60), (32512380, 0),
   (32734140, 60), (33046620, 0), (33258300, 60), (33570780, 0), (33782460, 60), (34094940, 0),
   (34306620, 60), (34619100, 0), (34840860, 60), (35143260, 0), (35365020, 60), (35667420, 0)]

def apia : List (Int × Int) :=
  [(21424980, -600), (21695880, -660), (21947880, -600), (22087320, 840), (22220040, 780),
   (22482120, 840), (22754280, 780), (23006280, 840), (23278440, 780), (23530440, 840),
   (23802600, 780), (24054600, 840), (24326760, 780), (24578760, 840), (24850920, 780),
   (25102920, 840), (25375080, 780), (25637160, 840), (25909320, 780), (26161320, 840),
   (26433480, 780), (26685480, 840), (26957640, 780)]

def auckland : List (Int × Int) :=
  [(18520680, 720), (18802920, 780), (19044840, 720), (19327080, 780), (19569000, 720),
   (19851240, 780), (20123400, 720), (20375400, 780), (20647560, 720), (20899560, 780),
   (21171720, 720), (21423720, 780), (21695880, 720), (21947880, 780), (22220040, 720),
   (22482120, 780), (22754280, 720), (23006280, 780), (23278440, 720), (23530440, 780),
   (23802600, 720), (24054600, 780), (24326760, 720), (24578760, 780), (24850920, 720),
   (25102920, 780), (25375080, 720), (25637160, 780), (25909320, 720), (26161320, 780),
   (26433480, 720), (26685480, 780), (26957640, 720), (27209640, 780), (27481800, 720),
   (27733800, 780), (28005960, 720), (28257960, 780), (28540200, 720), (28792200, 780),
   (29064360, 720), (29316360, 780), (29588520, 720), (29840520, 780), (30112680, 720),
   (30364680, 780), (30636840, 720), (30888840, 780), (31161000, 720), (31423080, 780),
   (31695240, 720), (31947240, 780), (32219400, 720), (32471400, 780), (32743560, 720),
   (32995560, 780), (33267720, 720), (33519720, 780), (33791880, 720), (34043880, 780),
   (34316040, 720), (34578120, 780), (34850280, 720), (35102280, 780), (35374440, 720), (35626440, 780)]

def zones : List (String × Int × List (Int × Int)) := [
  ("Africa/Cairo", 120, cairo),
  ("America/Argentina/Buenos_Aires", -180, buenosAires),
  ("America/Chicago", -360, chicago),
  ("America/Los_Angeles", -480, losAngeles),
  ("America/New_York", -300, newYork),
  ("America/Sao_Paulo", -120, saoPaulo),
  ("America/St_Johns", -210, stJohns),
  ("Antarctica/Troll", 0, troll),
  ("Asia/Calcutta", 330, []),
  ("Asia/Kathmandu", 345, []),
  ("Asia/Kolkata", 330, []),
  ("Asia/Shanghai", 480, []),
  ("Asia/Tehran", 210, tehran),
  ("Asia/Tokyo", 540, []),
  ("Australia/Lord_Howe", 660, lordHowe),
  ("Australia/Sydney", 660, sydney),
  ("EST", -300, []),
  ("EST5EDT", -300, newYork),
  ("Etc/GMT+5", -300, []),
  ("Etc/GMT-14", 840, []),
  ("Etc/UTC", 0, []),
  ("Europe/Berlin", 60, berlin),
  ("Europe/Kiev", 120, kiev),
  ("Europe/Kyiv", 120, kiev),
  ("Europe/London", 0, london),
  ("GMT", 0, []),
  ("Pacific/Apia", -660, apia),
  ("Pacific/Auckland", 780, auckland),
  ("UCT", 0, []),
  ("US/Eastern", -300, newYork),
  ("UTC", 0, []),
  ("Zulu", 0, [])
]

theorem trim_name : ∀ zone ∈ zones, Text.trim zone.1 = zone.1 ∧ zone.1 ≠ "" := by decide +kernel

theorem mem_zones {name : String} (h : (zones.lookup name).isSome = true) : ∃ zone ∈ zones, zone.1 = name := by
  obtain ⟨changes, hfound⟩ := Option.isSome_iff_exists.1 h
  obtain ⟨before, after, hzones, -⟩ := List.lookup_eq_some_iff.1 hfound
  exact ⟨(name, changes), by simp [hzones], rfl⟩

def find? (name : String) : Option Zone := if (zones.lookup name).isSome then some ⟨name⟩ else none

theorem find?_eq_some_iff {name : String} {z : Zone} :
    find? name = some z ↔ (zones.lookup name).isSome = true ∧ z.name = name := by
  obtain ⟨own⟩ := z
  rw [find?, Option.ite_none_right_eq_some, Option.some.injEq, Zone.mk.injEq, eq_comm (a := name)]

scoped instance database : ZoneDatabase where
  utc := ⟨"UTC"⟩
  ofName? := find?
  ahead z t :=
    match zones.lookup z.name with
    | some (first, changes) => changes.foldl (fun o (m, o') => if 60 * m ≤ t.second then 60 * o' else o) (60 * first)
    | none => 0
  ofName?_utc := by decide
  ofName?_name h := find?_eq_some_iff.2 ⟨(find?_eq_some_iff.1 h).2 ▸ (find?_eq_some_iff.1 h).1, rfl⟩
  trim_name h := by
    obtain ⟨zone, hzone, hname⟩ := mem_zones (find?_eq_some_iff.1 h).1
    exact hname ▸ (trim_name zone hzone).1
  name_ne_empty h := by
    obtain ⟨zone, hzone, hname⟩ := mem_zones (find?_eq_some_iff.1 h).1
    exact hname ▸ (trim_name zone hzone).2

end AccessPolicy.ZoneTable
