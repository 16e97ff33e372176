import TradingStatus.Time.Zone

/-! Zones of the Americas. The history of New York goes back to its first standard time, that of the
others to 1970. -/

namespace TradingStatus.ZoneRecord

/-- The changes in New York until 1940. -/
def newYorkUntil1940 : List (Int × Int) := [
  (-2717650800, -18000), (-1633280400, -14400), (-1615140000, -18000), (-1601830800, -14400),
  (-1583690400, -18000), (-1570381200, -14400), (-1551636000, -18000), (-1536512400, -14400),
  (-1523210400, -18000), (-1504458000, -14400), (-1491760800, -18000), (-1473008400, -14400),
  (-1459706400, -18000), (-1441558800, -14400), (-1428256800, -18000), (-1410109200, -14400),
  (-1396807200, -18000), (-1378659600, -14400), (-1365357600, -18000), (-1347210000, -14400),
  (-1333908000, -18000), (-1315155600, -14400), (-1301853600, -18000), (-1283706000, -14400),
  (-1270404000, -18000), (-1252256400, -14400), (-1238954400, -18000), (-1220806800, -14400),
  (-1207504800, -18000), (-1189357200, -14400), (-1176055200, -18000), (-1157302800, -14400),
  (-1144605600, -18000), (-1125853200, -14400), (-1112551200, -18000), (-1094403600, -14400),
  (-1081101600, -18000), (-1062954000, -14400), (-1049652000, -18000), (-1031504400, -14400),
  (-1018202400, -18000), (-1000054800, -14400), (-986752800, -18000), (-968000400, -14400),
  (-955303200, -18000)]

/-- The changes in New York from 1940 to 1970. -/
def newYorkUntil1970 : List (Int × Int) := [
  (-936550800, -14400), (-923248800, -18000), (-905101200, -14400), (-891799200, -18000),
  (-880218000, -14400), (-765396000, -18000), (-747248400, -14400), (-733946400, -18000),
  (-715798800, -14400), (-702496800, -18000), (-684349200, -14400), (-671047200, -18000),
  (-652899600, -14400), (-639597600, -18000), (-620845200, -14400), (-608148000, -18000),
  (-589395600, -14400), (-576093600, -18000), (-557946000, -14400), (-544644000, -18000),
  (-526496400, -14400), (-513194400, -18000), (-495046800, -14400), (-481744800, -18000),
  (-463597200, -14400), (-447271200, -18000), (-431542800, -14400), (-415821600, -18000),
  (-400093200, -14400), (-384372000, -18000), (-368643600, -14400), (-352922400, -18000),
  (-337194000, -14400), (-321472800, -18000), (-305744400, -14400), (-289418400, -18000),
  (-273690000, -14400), (-257968800, -18000), (-242240400, -14400), (-226519200, -18000),
  (-210790800, -14400), (-195069600, -18000), (-179341200, -14400), (-163620000, -18000),
  (-147891600, -14400), (-131565600, -18000), (-116442000, -14400), (-100116000, -18000),
  (-84387600, -14400), (-68666400, -18000), (-52938000, -14400), (-37216800, -18000),
  (-21488400, -14400), (-5767200, -18000)]

/-- The changes in New York since 1970. -/
def newYorkSince1970 : List (Int × Int) := [
  (9961200, -14400), (25682400, -18000), (41410800, -14400), (57736800, -18000),
  (73465200, -14400), (89186400, -18000), (104914800, -14400), (120636000, -18000),
  (126687600, -14400), (152085600, -18000), (162370800, -14400), (183535200, -18000),
  (199263600, -14400), (215589600, -18000), (230713200, -14400), (247039200, -18000),
  (262767600, -14400), (278488800, -18000), (294217200, -14400), (309938400, -18000),
  (325666800, -14400), (341388000, -18000), (357116400, -14400), (372837600, -18000),
  (388566000, -14400), (404892000, -18000), (420015600, -14400), (436341600, -18000),
  (452070000, -14400), (467791200, -18000), (483519600, -14400), (499240800, -18000),
  (514969200, -14400), (530690400, -18000), (544604400, -14400), (562140000, -18000),
  (576054000, -14400), (594194400, -18000), (607503600, -14400), (625644000, -18000),
  (638953200, -14400), (657093600, -18000), (671007600, -14400), (688543200, -18000),
  (702457200, -14400), (719992800, -18000), (733906800, -14400), (752047200, -18000),
  (765356400, -14400), (783496800, -18000), (796806000, -14400), (814946400, -18000),
  (828860400, -14400), (846396000, -18000), (860310000, -14400), (877845600, -18000),
  (891759600, -14400), (909295200, -18000), (923209200, -14400), (941349600, -18000),
  (954658800, -14400), (972799200, -18000), (986108400, -14400), (1004248800, -18000),
  (1018162800, -14400), (1035698400, -18000), (1049612400, -14400), (1067148000, -18000),
  (1081062000, -14400), (1099202400, -18000), (1112511600, -14400), (1130652000, -18000),
  (1143961200, -14400), (1162101600, -18000), (1173596400, -14400)]

/-- `America/New_York`. -/
def newYork : ZoneRecord where
  first := -17762
  changes := newYorkUntil1940 ++ newYorkUntil1970 ++ newYorkSince1970
  rule := .seasonal (-18000) (-14400) ⟨3, 2, 0, 7200⟩ ⟨11, 1, 0, 7200⟩

/-- `America/Sao_Paulo`. -/
def saoPaulo : ZoneRecord where
  first := -10800
  changes := [
    (499748400, -7200), (511236000, -10800), (530593200, -7200), (540266400, -10800),
    (562129200, -7200), (571197600, -10800), (592974000, -7200), (602042400, -10800),
    (624423600, -7200), (634701600, -10800), (656478000, -7200), (666756000, -10800),
    (687927600, -7200), (697600800, -10800), (719982000, -7200), (728445600, -10800),
    (750826800, -7200), (761709600, -10800), (782276400, -7200), (793159200, -10800),
    (813726000, -7200), (824004000, -10800), (844570800, -7200), (856058400, -10800),
    (876106800, -7200), (888717600, -10800), (908074800, -7200), (919562400, -10800),
    (938919600, -7200), (951616800, -10800), (970974000, -7200), (982461600, -10800),
    (1003028400, -7200), (1013911200, -10800), (1036292400, -7200), (1045360800, -10800),
    (1066532400, -7200), (1076810400, -10800), (1099364400, -7200), (1108864800, -10800),
    (1129431600, -7200), (1140314400, -10800), (1162695600, -7200), (1172368800, -10800),
    (1192330800, -7200), (1203213600, -10800), (1224385200, -7200), (1234663200, -10800),
    (1255834800, -7200), (1266717600, -10800), (1287284400, -7200), (1298167200, -10800),
    (1318734000, -7200), (1330221600, -10800), (1350788400, -7200), (1361066400, -10800),
    (1382238000, -7200), (1392516000, -10800), (1413687600, -7200), (1424570400, -10800),
    (1445137200, -7200), (1456020000, -10800), (1476586800, -7200), (1487469600, -10800),
    (1508036400, -7200), (1518919200, -10800), (1541300400, -7200), (1550368800, -10800)]
  rule := .fixed (-10800)

/-- `America/Nuuk`. -/
def nuuk : ZoneRecord where
  first := -10800
  changes := [
    (323845200, -7200), (338950800, -10800), (354675600, -7200), (370400400, -10800),
    (386125200, -7200), (401850000, -10800), (417574800, -7200), (433299600, -10800),
    (449024400, -7200), (465354000, -10800), (481078800, -7200), (496803600, -10800),
    (512528400, -7200), (528253200, -10800), (543978000, -7200), (559702800, -10800),
    (575427600, -7200), (591152400, -10800), (606877200, -7200), (622602000, -10800),
    (638326800, -7200), (654656400, -10800), (670381200, -7200), (686106000, -10800),
    (701830800, -7200), (717555600, -10800), (733280400, -7200), (749005200, -10800),
    (764730000, -7200), (780454800, -10800), (796179600, -7200), (811904400, -10800),
    (828234000, -7200), (846378000, -10800), (859683600, -7200), (877827600, -10800),
    (891133200, -7200), (909277200, -10800), (922582800, -7200), (941331600, -10800),
    (954032400, -7200), (972781200, -10800), (985482000, -7200), (1004230800, -10800),
    (1017536400, -7200), (1035680400, -10800), (1048986000, -7200), (1067130000, -10800),
    (1080435600, -7200), (1099184400, -10800), (1111885200, -7200), (1130634000, -10800),
    (1143334800, -7200), (1162083600, -10800), (1174784400, -7200), (1193533200, -10800),
    (1206838800, -7200), (1224982800, -10800), (1238288400, -7200), (1256432400, -10800),
    (1269738000, -7200), (1288486800, -10800), (1301187600, -7200), (1319936400, -10800),
    (1332637200, -7200), (1351386000, -10800), (1364691600, -7200), (1382835600, -10800),
    (1396141200, -7200), (1414285200, -10800), (1427590800, -7200), (1445734800, -10800),
    (1459040400, -7200), (1477789200, -10800), (1490490000, -7200), (1509238800, -10800),
    (1521939600, -7200), (1540688400, -10800), (1553994000, -7200), (1572138000, -10800),
    (1585443600, -7200), (1603587600, -10800), (1616893200, -7200), (1635642000, -10800),
    (1648342800, -7200), (1667091600, -10800), (1679792400, -7200), (1698541200, -7200)]
  rule := .seasonal (-7200) (-3600) ⟨3, 5, 0, -3600⟩ ⟨10, 5, 0, 0⟩

end TradingStatus.ZoneRecord
